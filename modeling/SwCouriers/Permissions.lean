import SwCouriers.Auth
import SwCouriers.Lib.Commands
import SwCouriers.Lib.RowLocks

/-!
# Permissions

The resolution of a user's permissions (the defaults of the role, overlaid with the overrides in
the database, cached in Redis) and the changes of the overrides, statement by statement: each
request is a transaction of its own, whose commands to Redis take effect at once.

All of it is about one user: the overrides and the cache entry are that user's. The marks
`PermLock.loaded` and `PermLock.deleted` are no locks of the database. A resolution holds the
first from its reading of the overrides to its write to the cache, a change the second from its
deletion of the cache entry to its commit. They carry the request that does, so nobody ever waits
for them.

## Main definitions

* `PermStore.resolved`: what the permissions of the user are.
* `resolvePermissions`, `checkPermission`: the resolution, through the cache.
* `setPermission`, `bulkSetPermissions`, `resetToDefaults`: the changes.
* `PermCall.prog`: one request.
-/

namespace SwCouriers.Permissions

open Checked ReadCommitted Commands Auth

/-! ### Resources and levels -/

/-- `Resource`. -/
inductive Resource where
  | dashboard | shipments | warehouses | drivers | customers | organizations | invoices
  | payments | reports | regions | users | admins | resetAdminPasswords | resetB2bClientPasswords
  | auditLog | settings | supportTickets | vehicleManagement | quickbooks | creditNotes
  | accountStatements | routePlanning | holidays | suspensionRules | statusAutomationRules
  | systemDefaults | serviceTiers | dynamicConfigs | accessLogs | documents | orders | requests
  | billing | notifications | contacts | orgProfile | cardPayment | requestCredit | reporting
  | billingRefunds
  deriving DecidableEq

/-- The texts that are stored. -/
def Resource.value : Resource → String
  | .dashboard => "DASHBOARD"
  | .shipments => "SHIPMENTS"
  | .warehouses => "WAREHOUSES"
  | .drivers => "DRIVERS"
  | .customers => "CUSTOMERS"
  | .organizations => "ORGANIZATIONS"
  | .invoices => "INVOICES"
  | .payments => "PAYMENTS"
  | .reports => "REPORTS"
  | .regions => "REGIONS"
  | .users => "USERS"
  | .admins => "ADMINS"
  | .resetAdminPasswords => "RESET_ADMIN_PASSWORDS"
  | .resetB2bClientPasswords => "RESET_B2B_CLIENT_PASSWORDS"
  | .auditLog => "AUDIT_LOG"
  | .settings => "SETTINGS"
  | .supportTickets => "SUPPORT_TICKETS"
  | .vehicleManagement => "VEHICLE_MANAGEMENT"
  | .quickbooks => "QUICKBOOKS"
  | .creditNotes => "CREDIT_NOTES"
  | .accountStatements => "ACCOUNT_STATEMENTS"
  | .routePlanning => "ROUTE_PLANNING"
  | .holidays => "HOLIDAYS"
  | .suspensionRules => "SUSPENSION_RULES"
  | .statusAutomationRules => "STATUS_AUTOMATION_RULES"
  | .systemDefaults => "SYSTEM_DEFAULTS"
  | .serviceTiers => "SERVICE_TIERS"
  | .dynamicConfigs => "DYNAMIC_CONFIGS"
  | .accessLogs => "ACCESS_LOGS"
  | .documents => "DOCUMENTS"
  | .orders => "ORDERS"
  | .requests => "REQUESTS"
  | .billing => "BILLING"
  | .notifications => "NOTIFICATIONS"
  | .contacts => "CONTACTS"
  | .orgProfile => "ORG_PROFILE"
  | .cardPayment => "CARD_PAYMENT"
  | .requestCredit => "REQUEST_CREDIT"
  | .reporting => "REPORTING"
  | .billingRefunds => "BILLING_REFUNDS"

/-- `PermissionLevel`. -/
inductive PermissionLevel where
  | none | read | write
  deriving DecidableEq

/-- The number of a level, which is stored and compared. -/
def PermissionLevel.value : PermissionLevel → ℤ
  | .none => 0
  | .read => 1
  | .write => 2

/-- The name of a level. -/
def PermissionLevel.name : PermissionLevel → String
  | .none => "NONE"
  | .read => "READ"
  | .write => "WRITE"

/-- `PermissionLevel(number)`. -/
def PermissionLevel.ofNumber (number : ℤ) : Option PermissionLevel :=
  [.none, .read, .write].find? fun level => level.value = number

/-- The larger of two levels. -/
def PermissionLevel.max (a b : PermissionLevel) : PermissionLevel :=
  if a.value < b.value then b else a

/-- A level for every resource. -/
abbrev PermissionSet := Resource → PermissionLevel

/-- `_ADMIN_MATRIX_LEVELS`. -/
def adminMatrixLevels : Resource → PermissionLevel
  | .vehicleManagement | .drivers | .organizations | .customers | .resetB2bClientPasswords
  | .admins | .creditNotes | .routePlanning | .resetAdminPasswords | .holidays | .suspensionRules
  | .systemDefaults | .serviceTiers | .notifications | .quickbooks | .dashboard | .billing
  | .documents => .write
  | .accessLogs | .auditLog => .read
  | _ => .none

/-- `_ADMIN_ROLE_LEVELS`. -/
def adminRoleLevels : PermissionSet
  | .dynamicConfigs => .read
  | resource => adminMatrixLevels resource

/-- The defaults of a super-admin. -/
def superAdminLevels : PermissionSet
  | .accessLogs | .auditLog => .write
  | resource => adminRoleLevels resource

/-- The defaults of warehouse staff. -/
def warehouseStaffLevels : Resource → PermissionLevel
  | .shipments => .write
  | .dashboard | .warehouses | .reports | .auditLog | .supportTickets | .routePlanning => .read
  | _ => .none

/-- The defaults of a driver. -/
def driverLevels : Resource → PermissionLevel
  | .shipments | .drivers | .supportTickets | .routePlanning => .read
  | _ => .none

/-- The defaults of a business customer. -/
def customerB2bLevels : Resource → PermissionLevel
  | .orders | .cardPayment | .requestCredit | .contacts | .systemDefaults => .write
  | .dashboard | .billing | .notifications | .documents | .orgProfile | .auditLog => .read
  | _ => .none

/-- The defaults of a private customer. -/
def customerB2cLevels : Resource → PermissionLevel
  | .supportTickets | .requests => .write
  | .dashboard | .shipments | .invoices | .payments | .billing | .notifications => .read
  | _ => .none

/-- `get_role_defaults`. -/
def getRoleDefaults : Auth.UserRole → PermissionSet
  | .superAdmin => superAdminLevels
  | .admin => adminRoleLevels
  | .warehouseStaff => warehouseStaffLevels
  | .driver => driverLevels
  | .customerB2b => customerB2bLevels
  | .customerB2c => customerB2cLevels

/-- `effective_permission_level`. -/
def effectivePermissionLevel (permissions : PermissionSet) (resource : Resource)
    (required : PermissionLevel) : PermissionLevel :=
  if resource = .dynamicConfigs ∧ PermissionLevel.write.value ≤ required.value then
    (permissions resource).max (permissions .systemDefaults)
  else permissions resource

/-- `is_assignable_resource`. -/
def isAssignableResource (resource : Resource) : Bool :=
  resource ∉ [Resource.statusAutomationRules, .invoices, .accountStatements, .requests]

/-! ### The database and the cache -/

/-- A row of `user_permissions` of the user. -/
structure Override where
  resource : String
  level : ℤ
  deriving DecidableEq

/-- What is kept about the user: whether there is a row in `users`, the overrides, of which there
is one for each resource, and the entry of the cache. -/
structure PermStore where
  userExists : Bool
  overrides : Table Override.resource
  cache : Option PermissionSet

/-- What a request can lock, and the marks of the request `t` (see above). -/
inductive PermLock (T : Type) where
  /-- A row, or its entry in `uq_user_permissions_user_resource`. -/
  | row (resource : String)
  | loaded (t : T)
  | deleted (t : T)
  deriving DecidableEq

/-- The user. -/
structure PermUser where
  id : Id
  role : Auth.UserRole

namespace PermStore

/-- `get_overrides_for_user`: rows with a text or a number that is not known are skipped. -/
def override (resource : Resource) (s : PermStore) : Option PermissionLevel :=
  (s.overrides.find? resource.value).bind fun row =>
    PermissionLevel.ofNumber row.level

/-- The defaults of the role, overlaid with the overrides. -/
def resolved (user : PermUser) (s : PermStore) : PermissionSet := fun resource =>
  (s.override resource).getD (getRoleDefaults user.role resource)

/-- Overrides are deleted. -/
def deleteOverrides (resources : List String) (s : PermStore) : PermStore :=
  { s with overrides := s.overrides.deleteWhere fun row => row.resource ∈ resources }

/-- `upsert`. -/
def upsert (resource : Resource) (level : PermissionLevel) (s : PermStore) : PermStore :=
  if (s.overrides.find? resource.value).isSome then
    { s with
      overrides := s.overrides.modify resource.value
        (fun row => { row with level := level.value }) fun _ => rfl }
  else { s with overrides := s.overrides.insert ⟨resource.value, level.value⟩ }

/-- What `bulk_set` writes. -/
def bulkSet (deleted : List String) (permissions : List (Resource × PermissionLevel))
    (s : PermStore) : PermStore :=
  permissions.foldl (fun s p =>
    { s with overrides := s.overrides.insert ⟨p.1.value, p.2.value⟩ }) (s.deleteOverrides deleted)

/-- `set_cached_permissions`. -/
def setCached (permissions : PermissionSet) (s : PermStore) : PermStore :=
  { s with cache := some permissions }

/-- `invalidate_cache`, and what happens when the entry expires. -/
def dropCached (s : PermStore) : PermStore := { s with cache := none }

end PermStore

section

variable {T : Type} (user : PermUser) (t : T)

/-- A part of a request. -/
abbrev PermProg (T α : Type) := Prog PermStore (PermLock T) ServiceError α

/-- A part of its transaction. -/
abbrev PermTxn (T α : Type) := Txn PermStore (PermLock T) ServiceError α

/-! ### Resolution -/

/-- `resolve_permissions`. -/
def resolvePermissions : PermProg T PermissionSet :=
  .read fun s =>
    match s.cache with
    | some cached => .pure cached
    | none =>
        .lock (.loaded t) fun s' =>
          .command (PermStore.setCached (s'.resolved user)) (fun _ => none)
            (some (.loaded t)) fun _ => .pure (s'.resolved user)

/-- `check_permission`. -/
def checkPermission (resource : Resource) (required : PermissionLevel) : PermProg T Unit := do
  let permissions ← resolvePermissions user t
  let level := effectivePermissionLevel permissions resource required
  if level.value < required.value then
    .raise (.forbidden ("Insufficient permission on " ++ resource.value ++ ": requires " ++
      required.name ++ ", you have " ++ level.name))
  else return ()

/-! ### Changes -/

/-- The lookup of the user whose permissions change. -/
def targetUser : PermTxn T Unit := Txn.statement fun s =>
  raiseIf (¬ s.userExists = true) (.notFound "user" (some user.id))

/-- `delete_override` and `delete_all_for_user`: the rows that are deleted. -/
def deleteRows (p : Override → Bool) : PermTxn T (List String) :=
  Txn.updateWhere .row PermStore.overrides p

/-- The overrides that `bulk_set` inserts. -/
def insertRows (deleted : List String) (permissions : List (Resource × PermissionLevel)) :
    PermTxn T Unit :=
  Txn.forEach (fun _ p => Txn.claim (.row p.1.value)
    (fun s => (s.overrides.find? p.1.value).isSome && p.1.value ∉ deleted)
    (.integrity "uq_user_permissions_user_resource")) permissions ()

/-- `invalidate_cache`, in a change. -/
def invalidateCache : PermProg T Unit :=
  .command PermStore.dropCached (fun _ => some (.deleted t)) none fun _ => .pure ()

/-- What `set_permission` does in the database. -/
def setPermissionTxn (resource : Resource) (level : PermissionLevel) :
    PermTxn T (PermStore → PermStore) := do
  targetUser user
  let _ ← Txn.check (raiseIf (¬ isAssignableResource resource = true)
    (.validation ("Permission overrides for " ++ resource.value ++
      " are not assignable; use SYSTEM_DEFAULTS instead.")
      [⟨"resource",
        "Use SYSTEM_DEFAULTS for status automation and dropdown configuration write access",
        "value_error"⟩]))
  if level = getRoleDefaults user.role resource then do
    let deleted ← deleteRows fun row => row.resource = resource.value
    return PermStore.deleteOverrides deleted
  else do
    Txn.lock (.row resource.value) fun _ => .pure ()
    return PermStore.upsert resource level

/-- `set_permission`. -/
def setPermission (resource : Resource) (level : PermissionLevel) :
    PermProg T (PermStore → PermStore) := do
  let write ← Prog.ofTxn (setPermissionTxn user resource level)
  invalidateCache t
  return write

/-- What `bulk_set_permissions` does in the database. -/
def bulkSetPermissionsTxn (permissions : List (Resource × PermissionLevel)) :
    PermTxn T (PermStore → PermStore) := do
  targetUser user
  let nonAssignable := permissions.filter fun p => ¬ isAssignableResource p.1 = true
  let _ ← Txn.check (raiseIf (nonAssignable ≠ [])
    (.validation ("Cannot assign overrides for: " ++
      ", ".intercalate (nonAssignable.map fun p => p.1.value) ++
      ". Use SYSTEM_DEFAULTS for bundled configuration access.")
      [⟨"permissions", "Use SYSTEM_DEFAULTS for bundled configuration write access",
        "value_error"⟩]))
  let overridesOnly := permissions.filter fun p => p.2 ≠ getRoleDefaults user.role p.1
  let deleted ← deleteRows fun _ => true
  insertRows deleted overridesOnly
  return PermStore.bulkSet deleted overridesOnly

/-- `bulk_set_permissions`. -/
def bulkSetPermissions (permissions : List (Resource × PermissionLevel)) :
    PermProg T (PermStore → PermStore) := do
  let write ← Prog.ofTxn (bulkSetPermissionsTxn user permissions)
  invalidateCache t
  return write

/-- What `reset_to_defaults` does in the database. -/
def resetToDefaultsTxn : PermTxn T (PermStore → PermStore) := do
  targetUser user
  let deleted ← deleteRows fun _ => true
  return PermStore.deleteOverrides deleted

/-- `reset_to_defaults`. -/
def resetToDefaults : PermProg T (PermStore → PermStore) := do
  let write ← Prog.ofTxn (resetToDefaultsTxn user)
  invalidateCache t
  return write

/-! ### Requests -/

/-- What is asked about the user; the cache entry may expire as well. -/
inductive PermCall where
  | resolvePermissions
  | checkPermission (resource : Resource) (required : PermissionLevel)
  | setPermission (resource : Resource) (level : PermissionLevel)
  | bulkSetPermissions (permissions : List (Resource × PermissionLevel))
  | resetToDefaults
  | expire

/-- A request. -/
def PermCall.prog : PermCall → PermProg T (PermStore → PermStore)
  | .resolvePermissions => do
      let _ ← Permissions.resolvePermissions user t
      return id
  | .checkPermission resource required => do
      Permissions.checkPermission user t resource required
      return id
  | .setPermission resource level => Permissions.setPermission user t resource level
  | .bulkSetPermissions permissions => Permissions.bulkSetPermissions user t permissions
  | .resetToDefaults => Permissions.resetToDefaults user t
  | .expire => do
      Prog.run PermStore.dropCached
      return id

end

end SwCouriers.Permissions
