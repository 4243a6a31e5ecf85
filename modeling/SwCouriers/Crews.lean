import SwCouriers.Common
import SwCouriers.Lib.RowLocks

/-!
# Crews and their Routes, Statement by Statement

`CrewService`: a crew pairs a driver with a vehicle, and an assignment gives a route to a
crew. Each operation is one transaction; its statements interleave with those of others.

Locking reads are `selectForUpdate`. An `UPDATE` of a row by its key waits for the row and
looks at its latest version. An insertion claims its entries of the partial unique indexes.
What an operation does after a write of its own sees that write (`Txn.seeing`). The locks that
foreign keys take are left out, which allows more schedules; the identifier of a new row is
drawn when it is committed, since nobody can name it before.

## Main definitions

* `CrewDb`: the tables `crews` and `route_crew_assignments`.
* `openCrew`, `closeCrew`, `reassignVehicleForDriver`, `reassignDriverForVehicle`,
  `assignRoute`, `unassignRoute`, `swapRouteCrew`, `forceCloseForDriver`,
  `forceCloseForVehicle`: the operations.
* `CrewOp.txn`: one request as a transaction.
-/

namespace SwCouriers

open Checked ReadCommitted

/-- `CrewEndReason`. -/
inductive CrewEndReason where
  | eod | vehicleSwap | driverHandover | driverSuspended | vehicleOutOfService | incident
  | manual
  deriving DecidableEq, Repr

/-- `RouteCrewUnassignReason`. -/
inductive RouteCrewUnassignReason where
  | routeCompleted | routeCancelled | crewSwap | driverSuspended | vehicleOutOfService | manual
  deriving DecidableEq, Repr

/-- A row of `crews`. A driver or a vehicle that was deleted leaves no reference. -/
structure Crew where
  id : Id
  driverId : Option Id
  vehicleId : Option Id
  startedAt : Instant
  endedAt : Option Instant
  startedById : Option Id
  endedById : Option Id
  endReason : Option CrewEndReason
  notes : Option String
  deriving DecidableEq

/-- A row of `route_crew_assignments`. -/
structure RouteCrewAssignment where
  id : Id
  routeId : Id
  crewId : Id
  assignedAt : Instant
  unassignedAt : Option Instant
  assignedById : Option Id
  unassignedById : Option Id
  reason : Option RouteCrewUnassignReason
  deriving DecidableEq

/-- The tables. -/
@[ext]
structure CrewDb where
  crews : Table Crew.id
  assignments : Table RouteCrewAssignment.id

/-- What a transaction can lock: rows, and entries of the four partial unique indexes. -/
inductive CrewLock where
  | crew (id : Id)
  | assignment (id : Id)
  /-- `uq_crews_open_driver`. -/
  | openDriver (driverId : Id)
  /-- `uq_crews_open_vehicle`. -/
  | openVehicle (vehicleId : Id)
  /-- `uq_rca_open_per_route`. -/
  | openRoute (routeId : Id)
  /-- `uq_rca_open_per_crew`. -/
  | openCrew (crewId : Id)
  deriving DecidableEq

/-- A part of a transaction. -/
abbrev CrewTxn (α : Type) := Txn CrewDb CrewLock ServiceError α

/-- What an operation is called with beside its own arguments: who acts, when the crew or the
assignment that it may create starts, and the clock for what it ends. -/
structure CrewContext where
  userId : Option Id
  startedAt : Instant
  now : Instant

/-- A crew that has not ended. -/
def Crew.isOpen (crew : Crew) : Bool := crew.endedAt.isNone

/-- An assignment that has not ended. -/
def RouteCrewAssignment.isOpen (assn : RouteCrewAssignment) : Bool := assn.unassignedAt.isNone

/-! ### Writes -/

/-- What `_close_crew_row` writes to a crew. -/
def Crew.ended (ctx : CrewContext) (reason : CrewEndReason) (crew : Crew) : Crew :=
  { crew with
    endedAt := some ctx.now
    endedById := ctx.userId
    endReason := some reason }

/-- What `_close_assignment` writes to an assignment. -/
def RouteCrewAssignment.ended (ctx : CrewContext) (reason : RouteCrewUnassignReason)
    (assn : RouteCrewAssignment) : RouteCrewAssignment :=
  { assn with
    unassignedAt := some ctx.now
    unassignedById := ctx.userId
    reason := some reason }

theorem Crew.id_ended (ctx : CrewContext) (reason : CrewEndReason) (crew : Crew) :
    (crew.ended ctx reason).id = crew.id := rfl

theorem RouteCrewAssignment.id_ended (ctx : CrewContext) (reason : RouteCrewUnassignReason)
    (assn : RouteCrewAssignment) : (assn.ended ctx reason).id = assn.id := rfl

namespace CrewDb

/-- A crew has ended. -/
def endCrew (ctx : CrewContext) (id : Id) (reason : CrewEndReason) (db : CrewDb) : CrewDb :=
  { db with crews := db.crews.modify id (Crew.ended ctx reason) (Crew.id_ended ctx reason) }

/-- An assignment has ended. -/
def endAssignment (ctx : CrewContext) (id : Id) (reason : RouteCrewUnassignReason)
    (db : CrewDb) : CrewDb :=
  { db with
    assignments := db.assignments.modify id (RouteCrewAssignment.ended ctx reason)
      (RouteCrewAssignment.id_ended ctx reason) }

/-- The row of a new crew. -/
def newCrew (db : CrewDb) (ctx : CrewContext) (driverId vehicleId : Id)
    (notes : Option String) : Crew where
  id := db.crews.fresh
  driverId := some driverId
  vehicleId := some vehicleId
  startedAt := ctx.startedAt
  endedAt := none
  startedById := ctx.userId
  endedById := none
  endReason := none
  notes := notes

/-- A new crew. -/
def addCrew (ctx : CrewContext) (driverId vehicleId : Id) (notes : Option String)
    (db : CrewDb) : CrewDb :=
  { db with crews := db.crews.insert (db.newCrew ctx driverId vehicleId notes) }

/-- The row of a new assignment. -/
def newAssignment (db : CrewDb) (ctx : CrewContext) (routeId crewId : Id) :
    RouteCrewAssignment where
  id := db.assignments.fresh
  routeId := routeId
  crewId := crewId
  assignedAt := ctx.startedAt
  unassignedAt := none
  assignedById := ctx.userId
  unassignedById := none
  reason := none

/-- A new assignment. -/
def addAssignment (ctx : CrewContext) (routeId crewId : Id) (db : CrewDb) : CrewDb :=
  { db with assignments := db.assignments.insert (db.newAssignment ctx routeId crewId) }

end CrewDb

/-! ### Repositories -/

/-- `CrewRepository.lock_by_id`. -/
def lockCrewById (crewId : Id) : CrewTxn (Option Crew) :=
  .selectForUpdate .crew CrewDb.crews fun crew => crew.id = crewId

/-- `lock_open_for_driver`. -/
def lockOpenForDriver (driverId : Id) : CrewTxn (Option Crew) :=
  .selectForUpdate .crew CrewDb.crews fun crew => crew.driverId = some driverId && crew.isOpen

/-- `lock_open_for_vehicle`. -/
def lockOpenForVehicle (vehicleId : Id) : CrewTxn (Option Crew) :=
  .selectForUpdate .crew CrewDb.crews fun crew => crew.vehicleId = some vehicleId && crew.isOpen

/-- `lock_open_for_route`. -/
def lockOpenForRoute (routeId : Id) : CrewTxn (Option RouteCrewAssignment) :=
  .selectForUpdate .assignment CrewDb.assignments fun assn =>
    assn.routeId = routeId && assn.isOpen

/-- `lock_open_for_crew`. -/
def lockOpenForCrew (crewId : Id) : CrewTxn (Option RouteCrewAssignment) :=
  .selectForUpdate .assignment CrewDb.assignments fun assn =>
    assn.crewId = crewId && assn.isOpen

/-! ### Operations -/

/-- `_close_crew_row`: the update matches a crew that has not ended. -/
def closeCrewRow (ctx : CrewContext) (crew : Crew) (reason : CrewEndReason) :
    CrewTxn (CrewDb → CrewDb) := do
  let _ ← Txn.lockRow (.crew crew.id) fun db =>
    raiseIf (¬ (db.crews.find? crew.id).any Crew.isOpen)
      (.conflict "Crew was modified by another request.")
  return CrewDb.endCrew ctx crew.id reason

/-- `_close_assignment`. -/
def closeAssignment (ctx : CrewContext) (assn : RouteCrewAssignment)
    (reason : RouteCrewUnassignReason) : CrewTxn (CrewDb → CrewDb) := do
  let _ ← Txn.lockRow (.assignment assn.id) fun db =>
    raiseIf (¬ (db.assignments.find? assn.id).any RouteCrewAssignment.isOpen)
      (.conflict "Route assignment was modified by another request.")
  return CrewDb.endAssignment ctx assn.id reason

/-- `open_crew`. -/
def openCrew (ctx : CrewContext) (driverId vehicleId : Id) (notes : Option String) :
    CrewTxn (CrewDb → CrewDb) := do
  let conflict := ServiceError.conflict "Driver or vehicle is already paired in an open crew."
  Txn.claim (.openDriver driverId)
    (fun db => db.crews.rows.any fun c => c.isOpen && c.driverId = some driverId) conflict
  Txn.claim (.openVehicle vehicleId)
    (fun db => db.crews.rows.any fun c => c.isOpen && c.vehicleId = some vehicleId) conflict
  return CrewDb.addCrew ctx driverId vehicleId notes

/-- The writes `w` and then those of the rest, which sees them. -/
def CrewTxn.andThen (w : CrewDb → CrewDb) (rest : CrewTxn (CrewDb → CrewDb)) :
    CrewTxn (CrewDb → CrewDb) := do
  let w' ← rest.seeing w
  return fun db => w' (w db)

/-- The end of a crew together with the assignment that was found for it. -/
def closeCrewAndAssignment (ctx : CrewContext) (crew : Crew) (reason : CrewEndReason)
    (assignmentReason : RouteCrewUnassignReason) :
    Option RouteCrewAssignment → CrewTxn (CrewDb → CrewDb)
  | none => closeCrewRow ctx crew reason
  | some assn => do
      let w ← closeAssignment ctx assn assignmentReason
      CrewTxn.andThen w (closeCrewRow ctx crew reason)

/-- `close_crew`. -/
def closeCrew (ctx : CrewContext) (crewId : Id) (reason : CrewEndReason) (force : Bool) :
    CrewTxn (CrewDb → CrewDb) := do
  let crew ← Txn.check (orRaise (← lockCrewById crewId) (.notFound "crew" (some crewId)))
  let _ ← Txn.check (raiseIf (¬ crew.isOpen) (.conflict "Crew is already closed."))
  let openAssn ← lockOpenForCrew crewId
  let _ ← Txn.check (raiseIf (openAssn.isSome ∧ ¬ force) (.conflict
    ("Crew has an active route assignment. Complete or cancel the route first, or close with "
      ++ "force=true.")))
  closeCrewAndAssignment ctx crew reason .manual openAssn

/-- What the two reassignments share: the crew that was found is closed, unless it is on a
route, and another one is opened. -/
def reassignCrew (ctx : CrewContext) (previous : Crew) (reason : CrewEndReason)
    (onRoute : String) (driverId vehicleId : Id) (notes : Option String) :
    CrewTxn (CrewDb → CrewDb) := do
  let openAssn ← lockOpenForCrew previous.id
  let _ ← Txn.check (raiseIf (openAssn.isSome = true) (.conflict onRoute))
  let w ← closeCrewRow ctx previous reason
  CrewTxn.andThen w (openCrew ctx driverId vehicleId notes)

/-- `reassign_vehicle_for_driver`. -/
def reassignVehicleForDriver (ctx : CrewContext) (driverId newVehicleId : Id)
    (reason : CrewEndReason) (notes : Option String) : CrewTxn (CrewDb → CrewDb) := do
  let previous ← Txn.check (orRaise (← lockOpenForDriver driverId)
    (.notFound "open crew for driver" (some driverId)))
  reassignCrew ctx previous reason
    "Driver is on an active route. Complete or cancel the route first." driverId newVehicleId
    notes

/-- `reassign_driver_for_vehicle`. -/
def reassignDriverForVehicle (ctx : CrewContext) (vehicleId newDriverId : Id)
    (reason : CrewEndReason) (notes : Option String) : CrewTxn (CrewDb → CrewDb) := do
  let previous ← Txn.check (orRaise (← lockOpenForVehicle vehicleId)
    (.notFound "open crew for vehicle" (some vehicleId)))
  reassignCrew ctx previous reason
    "Vehicle is on an active route. Complete or cancel the route first." newDriverId vehicleId
    notes

/-- `assign_route`. -/
def assignRoute (ctx : CrewContext) (routeId crewId : Id) : CrewTxn (CrewDb → CrewDb) := do
  let crew ← Txn.check (orRaise (← lockCrewById crewId) (.notFound "crew" (some crewId)))
  let _ ← Txn.check (raiseIf (¬ crew.isOpen)
    (.conflict "Crew is closed; cannot assign a route to it."))
  let existing ← lockOpenForRoute routeId
  let _ ← Txn.check (raiseIf (existing.isSome = true)
    (.conflict "Route already has an open crew assignment."))
  let conflict := ServiceError.conflict "Route or crew already has an open assignment."
  Txn.claim (.openRoute routeId)
    (fun db => db.assignments.rows.any fun a => a.isOpen && a.routeId = routeId) conflict
  Txn.claim (.openCrew crewId)
    (fun db => db.assignments.rows.any fun a => a.isOpen && a.crewId = crewId) conflict
  return CrewDb.addAssignment ctx routeId crewId

/-- `unassign_route`. -/
def unassignRoute (ctx : CrewContext) (routeId : Id) (reason : RouteCrewUnassignReason) :
    CrewTxn (CrewDb → CrewDb) := do
  let assn ← Txn.check (orRaise (← lockOpenForRoute routeId)
    (.notFound "open route assignment for route" (some routeId)))
  closeAssignment ctx assn reason

/-- `swap_route_crew`. -/
def swapRouteCrew (ctx : CrewContext) (routeId newCrewId : Id)
    (reason : RouteCrewUnassignReason) : CrewTxn (CrewDb → CrewDb) := do
  let previous ← Txn.check (orRaise (← lockOpenForRoute routeId)
    (.notFound "open route assignment for route" (some routeId)))
  let newCrew ← Txn.check (orRaise (← lockCrewById newCrewId) (.notFound "crew" (some newCrewId)))
  let _ ← Txn.check (raiseIf (¬ newCrew.isOpen) (.conflict "New crew is closed; cannot assign."))
  let w ← closeAssignment ctx previous reason
  CrewTxn.andThen w (assignRoute ctx routeId newCrewId)

/-- What the two cascades share: whatever was found is closed. -/
def forceClose (ctx : CrewContext) (reason : CrewEndReason)
    (assignmentReason : RouteCrewUnassignReason) : Option Crew → CrewTxn (CrewDb → CrewDb)
  | none => return fun db => db
  | some crew => do
      let assn ← lockOpenForCrew crew.id
      closeCrewAndAssignment ctx crew reason assignmentReason assn

/-- `force_close_for_driver`. -/
def forceCloseForDriver (ctx : CrewContext) (driverId : Id) (reason : CrewEndReason) :
    CrewTxn (CrewDb → CrewDb) := do
  let crew ← lockOpenForDriver driverId
  forceClose ctx reason (if reason = .driverSuspended then .driverSuspended else .manual) crew

/-- `force_close_for_vehicle`. -/
def forceCloseForVehicle (ctx : CrewContext) (vehicleId : Id) (reason : CrewEndReason) :
    CrewTxn (CrewDb → CrewDb) := do
  let crew ← lockOpenForVehicle vehicleId
  forceClose ctx reason
    (if reason = .vehicleOutOfService then .vehicleOutOfService else .manual) crew

/-! ### Requests -/

/-- What can be asked of the service. -/
inductive CrewOp where
  | openCrew (driverId vehicleId : Id) (notes : Option String)
  | closeCrew (crewId : Id) (reason : CrewEndReason) (force : Bool)
  | reassignVehicleForDriver (driverId newVehicleId : Id) (reason : CrewEndReason)
      (notes : Option String)
  | reassignDriverForVehicle (vehicleId newDriverId : Id) (reason : CrewEndReason)
      (notes : Option String)
  | assignRoute (routeId crewId : Id)
  | unassignRoute (routeId : Id) (reason : RouteCrewUnassignReason)
  | swapRouteCrew (routeId newCrewId : Id) (reason : RouteCrewUnassignReason)
  | forceCloseForDriver (driverId : Id) (reason : CrewEndReason)
  | forceCloseForVehicle (vehicleId : Id) (reason : CrewEndReason)

/-- A request as a transaction. -/
def CrewOp.txn (ctx : CrewContext) : CrewOp → CrewTxn (CrewDb → CrewDb)
  | .openCrew driverId vehicleId notes => SwCouriers.openCrew ctx driverId vehicleId notes
  | .closeCrew crewId reason force => SwCouriers.closeCrew ctx crewId reason force
  | .reassignVehicleForDriver driverId newVehicleId reason notes =>
      SwCouriers.reassignVehicleForDriver ctx driverId newVehicleId reason notes
  | .reassignDriverForVehicle vehicleId newDriverId reason notes =>
      SwCouriers.reassignDriverForVehicle ctx vehicleId newDriverId reason notes
  | .assignRoute routeId crewId => SwCouriers.assignRoute ctx routeId crewId
  | .unassignRoute routeId reason => SwCouriers.unassignRoute ctx routeId reason
  | .swapRouteCrew routeId newCrewId reason =>
      SwCouriers.swapRouteCrew ctx routeId newCrewId reason
  | .forceCloseForDriver driverId reason => SwCouriers.forceCloseForDriver ctx driverId reason
  | .forceCloseForVehicle vehicleId reason =>
      SwCouriers.forceCloseForVehicle ctx vehicleId reason

end SwCouriers
