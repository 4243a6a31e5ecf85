import SwCouriers.Lib.Runs
import SwCouriers.OrderModel

/-!
# Stop Execution

What a driver does at a stop of a route: the operations of `DriverService` behind
`/me/routes/{route_id}/stops/{stop_id}`. A route stop is one leg (pickup, delivery or return)
and names the delivery stop that it serves; several route stops, of several drivers, may
serve the same delivery stop, and packages, photos and the signature belong to the delivery
stop.

A request is one transaction: when it raises, nothing of it is kept, not even the scan log
that was written just before.

Primary keys of packages arrive as texts (in a path, in a list, in a scan), so for them the
model says how a text is read and written; `UuidText` is what the database and the UUID class
are relied on for. The SHA-256 of the notes and the image store are functions of the
environment.

## Main definitions

* `ExecutionDb`: the tables that the operations read and write.
* `scanStopPackage`, `setStopPackageStatus`, `setReturnStopPackagesStatusBatch`,
  `reportMissingPackage`, `pickupScanPackagesForOrder`: the operations on packages.
* `createStopPodUploadUrl`, `confirmStopPodPhoto`, `deleteStopPodPhoto`, `saveStopSignature`:
  the proof of delivery.
* `stopGates`, `buildStopDeliveryReadiness`, `completeStopDelivery`: completing a stop.
* `StopRequest.step`: one request of a driver.
-/

namespace SwCouriers

open Checked

/-! ### Enumerations -/

/-- `RouteStopStatus`. -/
inductive RouteStopStatus where
  | pending | needsReview | ready | assigned | enRoute | arrived | completed | failed
  | cancelled
  deriving DecidableEq, Repr

/-- `RouteStopFlowType`; `returnLeg` is `RETURN`. -/
inductive RouteStopFlowType where
  | pickup | delivery | returnLeg
  deriving DecidableEq, Repr

/-- `PACKAGE_STOP_DELIVERY_OUTCOME_STATUSES`. -/
def packageStopDeliveryOutcomeStatuses : List PackageStatus :=
  [.deliveredToCustomer, .leftAtSafePlace, .customerNotHome, .refusedByCustomer, .missing,
    .damaged]

/-- `PACKAGE_PRE_PICKUP_FOR_SCAN_STATUSES`. -/
def packagePrePickupForScanStatuses : List PackageStatus :=
  [.pendingPickup, .pickupScheduled, .enroutePickup]

/-- `PACKAGE_STOP_RETURN_HUB_COMPLETE_STATUSES`. -/
def packageStopReturnHubCompleteStatuses : List PackageStatus :=
  [.returned, .disposed, .cancelled, .customerNotHome]

/-- `PACKAGE_RETURN_FLOW_REQUIRES_STOP_POD_STATUSES`. -/
def packageReturnFlowRequiresStopPodStatuses : List PackageStatus := [.returned]

/-- `PACKAGE_DRIVER_PATCH_DELIVERY_STATUSES`. -/
def packageDriverPatchDeliveryStatuses : List PackageStatus :=
  [.deliveredToCustomer, .leftAtSafePlace, .customerNotHome, .refusedByCustomer]

/-- The members of `PackageStatus`. -/
def PackageStatus.members : List PackageStatus :=
  [.pendingPickup, .pickupScheduled, .enroutePickup, .enrouteWarehouse, .atWarehouse,
    .sortingInProgress, .deliveryScheduled, .loadedForDelivery, .outForDelivery,
    .deliveredToCustomer, .customerNotHome, .refusedByCustomer, .missing, .damaged,
    .leftAtSafePlace, .returnInitiated, .returnInTransit, .returned, .cancelled, .disposed]

/-- `PackageStatus(value)`; `none` is `ValueError`. -/
def PackageStatus.ofValue (value : String) : Option PackageStatus :=
  PackageStatus.members.find? fun status => status.value = value

/-! ### Rows -/

/-- A route, as far as it is asked whose it is. -/
structure Route where
  id : Id
  driverId : Option Id
  deriving DecidableEq

/-- A stop of a route. -/
structure RouteStop where
  id : Id
  routeId : Id
  deliveryStopId : Option Id
  orderId : Option Id
  status : RouteStopStatus
  stopFlowType : RouteStopFlowType
  actualArrival : Option Instant
  notes : Option String
  deriving DecidableEq

/-- The columns of `orders` that are read here. -/
structure OrderRow where
  id : Id
  masterLabelId : String
  deriving DecidableEq

/-- The columns of `delivery_stops` that are read here. -/
structure DeliveryStopRow where
  id : Id
  orderId : Id
  signatureRequired : Bool
  deriving DecidableEq

/-- The columns of `packages` that are read here. -/
structure PackageRow where
  id : Id
  packageId : String
  orderId : Id
  deliveryStopId : Option Id
  status : PackageStatus
  deriving DecidableEq

/-- A note on a delivery stop. -/
structure StopNote where
  id : Id
  deliveryStopId : Id
  noteType : String
  message : String
  isBlocking : Bool
  sortOrder : ℤ
  packageIds : Option (List String)
  deriving DecidableEq

/-- An image of a note. -/
structure StopNoteImage where
  id : Id
  stopNoteId : Id
  imageKey : String
  sortOrder : ℤ
  deriving DecidableEq

/-- A driver has read the notes of a delivery stop, in the version of the hash. -/
structure StopNoteAcknowledgement where
  deliveryStopId : Id
  driverId : Id
  notesHash : String
  acknowledgedAt : Instant
  deriving DecidableEq

/-- `uq_stop_note_ack_stop_driver_hash`. -/
def StopNoteAcknowledgement.key (ack : StopNoteAcknowledgement) : Id × Id × String :=
  (ack.deliveryStopId, ack.driverId, ack.notesHash)

/-- The proof of delivery of a delivery stop. -/
structure StopPod where
  deliveryStopId : Id
  photosCount : ℕ := 0
  signatureImageKey : Option String := none
  signatureRequiredSnapshot : Bool := false
  completedAt : Option Instant := none
  deriving DecidableEq

/-- A photo of the proof of delivery. -/
structure StopPodPhoto where
  id : Id
  deliveryStopId : Id
  imageKey : String
  sortOrder : ℕ
  uploadedByDriverId : Option Id
  deriving DecidableEq

/-- A transition of a package, as `record_package_transition` writes it. -/
structure PackageEvent where
  packageId : Id
  fromStatus : PackageStatus
  toStatus : PackageStatus
  actorUserId : Option Id
  deriving DecidableEq

/-- A scan. -/
structure PackageScanLog where
  routeId : Id
  routeStopId : Id
  deliveryStopId : Id
  packageId : Option Id
  driverId : Id
  scanValue : String
  result : String
  deriving DecidableEq

/-- A package that was reported missing. -/
structure PackageMissingReport where
  packageId : Id
  routeId : Id
  routeStopId : Id
  deliveryStopId : Id
  driverId : Id
  reasonCode : String
  details : Option String
  deriving DecidableEq

/-- The tables. -/
structure ExecutionDb where
  routes : Table Route.id
  routeStops : Table RouteStop.id
  orders : Table OrderRow.id
  deliveryStops : Table DeliveryStopRow.id
  packages : Table PackageRow.id
  stopNotes : List StopNote
  stopNoteImages : List StopNoteImage
  acknowledgements : Table StopNoteAcknowledgement.key
  pods : Table StopPod.deliveryStopId
  podPhotos : Table StopPodPhoto.id
  packageEvents : List PackageEvent
  scanLogs : List PackageScanLog
  missingReports : List PackageMissingReport

/-! ### The environment -/

/-- A note as it is sent to the driver and hashed. -/
structure StopNotePayload where
  id : Id
  noteType : String
  message : String
  isBlocking : Bool
  sortOrder : ℤ
  packageIds : List String
  images : List StopNoteImage

/-- An uploaded file. -/
structure UploadFile where
  filename : Option String
  contentType : Option String
  /-- The number of bytes. -/
  size : ℕ

/-- What the operations use beside the database. -/
structure DriverEnv where
  uuid : UuidText
  /-- `str.upper`. -/
  upper : String → String
  /-- The SHA-256 of the JSON text of the notes, in order. -/
  sha256 : List StopNotePayload → String
  /-- `upload_image`, with the identifier that the image store gives. -/
  uploadImage : UploadFile → Except ServiceError String

/-- The path of a request: a stop of a route, and the driver who asks. -/
structure StopPath where
  routeId : Id
  stopId : Id
  driverId : Id

/-! ### Repositories -/

namespace ExecutionDb

/-- `StopNoteRepository.list_for_delivery_stop`. -/
def notesOf (db : ExecutionDb) (deliveryStopId : Id) : List StopNote :=
  (db.stopNotes.filter fun note => note.deliveryStopId = deliveryStopId).insertionSort
    fun a b => a.sortOrder ≤ b.sortOrder

/-- `list_images_for_note_ids`, for one note. -/
def imagesOf (db : ExecutionDb) (noteId : Id) : List StopNoteImage :=
  (db.stopNoteImages.filter fun image => image.stopNoteId = noteId).insertionSort
    fun a b => a.sortOrder ≤ b.sortOrder

/-- `PackageExecutionRepository.list_for_delivery_stop`. -/
def listForDeliveryStop (db : ExecutionDb) (deliveryStopId : Id) : List PackageRow :=
  db.packages.rows.filter fun p => p.deliveryStopId = some deliveryStopId

/-- `list_for_order`. -/
def listForOrder (db : ExecutionDb) (orderId : Id) : List PackageRow :=
  db.packages.rows.filter fun p => p.orderId = orderId

/-- `list_pod_photos`. -/
def listPodPhotos (db : ExecutionDb) (deliveryStopId : Id) : List StopPodPhoto :=
  db.podPhotos.rows.filter fun photo => photo.deliveryStopId = deliveryStopId

/-- The packages table with a package in a new status. -/
def setStatus (db : ExecutionDb) (packageId : Id) (status : PackageStatus) :
    Table PackageRow.id :=
  db.packages.modify packageId (fun p => { p with status := status }) fun _ => rfl

/-- `update_package_status`, for a package that was loaded. -/
def updatePackageStatus (db : ExecutionDb) (package : PackageRow) (status : PackageStatus)
    (actorUserId : Option Id) : ExecutionDb :=
  if package.status = status then db
  else { db with
    packages := db.setStatus package.id status
    packageEvents := db.packageEvents ++ [⟨package.id, package.status, status, actorUserId⟩] }

/-- `create_scan_log`. -/
def createScanLog (db : ExecutionDb) (path : StopPath) (deliveryStopId : Id)
    (packageId : Option Id) (scanValue result : String) : ExecutionDb :=
  { db with scanLogs := db.scanLogs ++ [⟨path.routeId, path.stopId, deliveryStopId, packageId,
    path.driverId, scanValue, result⟩] }

/-- The row that `get_or_create_stop_pod` returns. -/
def stopPod (db : ExecutionDb) (deliveryStopId : Id) : StopPod :=
  (db.pods.find? deliveryStopId).getD { deliveryStopId := deliveryStopId }

/-- `get_or_create_stop_pod`; the row is `stopPod`. -/
def getOrCreateStopPod (db : ExecutionDb) (deliveryStopId : Id) : ExecutionDb :=
  { db with pods := db.pods.insert { deliveryStopId := deliveryStopId } }

/-- Write to the row that was returned. -/
def modifyStopPod (db : ExecutionDb) (deliveryStopId : Id) (f : StopPod → StopPod)
    (hf : ∀ pod, (f pod).deliveryStopId = pod.deliveryStopId) : ExecutionDb :=
  { db with pods := db.pods.modify deliveryStopId f hf }

/-- `create_pod_photo`; two photos of a stop never share a sort order. -/
def createPodPhoto (db : ExecutionDb) (deliveryStopId : Id) (imageKey : String)
    (sortOrder : ℕ) (driverId : Id) : Except ServiceError ExecutionDb := do
  raiseIf (∃ photo ∈ db.listPodPhotos deliveryStopId, photo.sortOrder = sortOrder)
    (.integrity "uq_stop_pod_photos_stop_order")
  let photo : StopPodPhoto :=
    ⟨db.podPhotos.fresh, deliveryStopId, imageKey, sortOrder, some driverId⟩
  return { db with podPhotos := db.podPhotos.insert photo }

end ExecutionDb

/-- The package with a key that arrives as a text: `get_by_id_or_404`. -/
def getPackageOr404 (env : DriverEnv) (db : ExecutionDb) (packageId : String) :
    Except ServiceError PackageRow := do
  let id ← orRaise (env.uuid.read packageId) (.uncaught "DBAPIError")
  orRaise (db.packages.find? id) (.notFound "packages" (some id))

/-- `resolve_by_scan_value`. -/
def resolveByScanValue (env : DriverEnv) (db : ExecutionDb) (scanValue : String) :
    Except ServiceError (Option PackageRow) := do
  let key ← if env.uuid.parses scanValue then
      (orRaise (env.uuid.read scanValue) (.uncaught "DBAPIError")).map some
    else .ok none
  return db.packages.rows.find? fun p => p.packageId = scanValue ∨ some p.id = key

/-- `list_for_delivery_stop_by_package_ids`. -/
def listForDeliveryStopByPackageIds (env : DriverEnv) (db : ExecutionDb) (deliveryStopId : Id)
    (packageIds : List String) : Except ServiceError (List PackageRow) := do
  let keys ← mapEach (fun text => orRaise (env.uuid.read text) (.uncaught "DBAPIError"))
    packageIds
  return (db.listForDeliveryStop deliveryStopId).filter fun p => p.id ∈ keys

/-! ### The path of a request and its notes -/

/-- `_get_route_for_driver_or_404`. -/
def getRouteForDriverOr404 (db : ExecutionDb) (path : StopPath) : Except ServiceError Route :=
  orRaise ((db.routes.find? path.routeId).filter fun route => route.driverId = some path.driverId)
    (.notFound "route" (some path.routeId))

/-- `get_route_stop`. -/
def getRouteStop (db : ExecutionDb) (path : StopPath) : Option RouteStop :=
  (db.routeStops.find? path.stopId).filter fun stop => stop.routeId = path.routeId

/-- `_resolve_execution_context`. -/
def resolveExecutionContext (db : ExecutionDb) (path : StopPath) :
    Except ServiceError (RouteStop × Id) := do
  let _ ← getRouteForDriverOr404 db path
  let stop ← orRaise (getRouteStop db path) (.notFound "route_stop" (some path.stopId))
  let deliveryStopId ← orRaise stop.deliveryStopId
    (invalid "Selected route stop is not linked to a delivery stop")
  return (stop, deliveryStopId)

/-- The texts of a note's `package_ids` that look like keys. -/
def notePackageCandidates (env : DriverEnv) (note : StopNote) : List String :=
  ((note.packageIds.getD []).map strip).filter fun text => text ≠ "" ∧ env.uuid.parses text

/-- `batch_package_ids_for_stop_notes`: the texts that name packages of the stop. -/
def validNotePackageIds (env : DriverEnv) (db : ExecutionDb) (deliveryStopId orderId : Id)
    (notes : List StopNote) : Except ServiceError (List String) := do
  let found ← listForDeliveryStopByPackageIds env db deliveryStopId
    (notes.flatMap (notePackageCandidates env))
  return (found.filter fun p => p.orderId = orderId).map fun p => env.uuid.write p.id

/-- The payload of one note. -/
def notePayload (env : DriverEnv) (db : ExecutionDb) (valid : List String) (note : StopNote) :
    StopNotePayload where
  id := note.id
  noteType := note.noteType
  message := note.message
  isBlocking := note.isBlocking
  sortOrder := note.sortOrder
  packageIds := ((notePackageCandidates env note).filter (· ∈ valid)).insertionSort (· ≤ ·)
  images := db.imagesOf note.id

/-- The order in which notes are hashed: by sort order, type and key. -/
def noteHashedBefore (env : DriverEnv) (a b : StopNotePayload) : Prop :=
  a.sortOrder < b.sortOrder ∨ a.sortOrder = b.sortOrder ∧
    (a.noteType < b.noteType ∨ a.noteType = b.noteType ∧
      env.uuid.write a.id ≤ env.uuid.write b.id)

instance (env : DriverEnv) : DecidableRel (noteHashedBefore env) := fun _ _ =>
  inferInstanceAs (Decidable (_ ∨ _ ∧ (_ ∨ _ ∧ _)))

/-- `_compute_stop_notes_hash`. -/
def computeStopNotesHash (env : DriverEnv) (notes : List StopNotePayload) : String :=
  env.sha256 (notes.insertionSort (noteHashedBefore env))

/-- What `get_stop_notes_payload` tells about the notes of a stop. -/
structure StopNotesPayload where
  deliveryStopId : Id
  notesHash : String
  requiresAcknowledgement : Bool
  acknowledgement : Option StopNoteAcknowledgement
  items : List StopNotePayload

/-- `get_stop_notes_payload`. -/
def getStopNotesPayload (env : DriverEnv) (db : ExecutionDb) (path : StopPath) :
    Except ServiceError StopNotesPayload := do
  let (_, deliveryStopId) ← resolveExecutionContext db path
  let notes := db.notesOf deliveryStopId
  let dstop ← orRaise (db.deliveryStops.find? deliveryStopId)
    (.notFound "delivery_stop" (some deliveryStopId))
  let valid ← validNotePackageIds env db deliveryStopId dstop.orderId notes
  let items := notes.map (notePayload env db valid)
  let notesHash := computeStopNotesHash env items
  return {
    deliveryStopId := deliveryStopId
    notesHash := notesHash
    requiresAcknowledgement := notes.any (·.isBlocking)
    acknowledgement := db.acknowledgements.find? (deliveryStopId, path.driverId, notesHash)
    items := items }

/-- `_validate_notes_ack_gate`. -/
def validateNotesAckGate (env : DriverEnv) (db : ExecutionDb) (path : StopPath) :
    Except ServiceError Unit := do
  let payload ← getStopNotesPayload env db path
  raiseIf (payload.requiresAcknowledgement = true ∧ payload.acknowledgement = none)
    (invalid "NOTES_ACK_REQUIRED")

/-- `acknowledge_stop_notes`. -/
def acknowledgeStopNotes (env : DriverEnv) (db : ExecutionDb) (path : StopPath)
    (notesHash : String) (now : Instant) : Except ServiceError ExecutionDb := do
  let (_, deliveryStopId) ← resolveExecutionContext db path
  let payload ← getStopNotesPayload env db path
  raiseIf (notesHash ≠ payload.notesHash)
    (invalid "Notes changed; refresh notes and acknowledge latest version")
  -- The insertion keeps an acknowledgement that is already there, as `upsert_ack` does.
  let ack : StopNoteAcknowledgement := ⟨deliveryStopId, path.driverId, notesHash, now⟩
  return { db with acknowledgements := db.acknowledgements.insert ack }

/-! ### Packages -/

/-- Whether a package is still to be dealt with on a leg: the test of
`_pending_package_ids_for_stop_flow`. -/
def isPending (flow : RouteStopFlowType) (status : PackageStatus) : Bool :=
  match flow with
  | .pickup => status ∈ packagePrePickupForScanStatuses
  | .returnLeg => status ∉ packageStopReturnHubCompleteStatuses
  | .delivery => status ∉ packageStopDeliveryOutcomeStatuses

/-- `_pending_package_ids_for_stop_flow`. -/
def pendingPackageIdsForStopFlow (flow : RouteStopFlowType) (packages : List PackageRow) :
    List Id :=
  (packages.filter fun p => isPending flow p.status).map (·.id)

/-- Whether a scanned text is the master label of the order that a pickup stop belongs to. -/
def isMasterLabelOf (db : ExecutionDb) (flow : RouteStopFlowType) (deliveryStopId : Id)
    (rawScan : String) : Bool :=
  flow = .pickup &&
    ((db.deliveryStops.find? deliveryStopId).any fun dstop =>
      (db.orders.find? dstop.orderId).any fun order =>
        order.masterLabelId ≠ "" && rawScan = strip order.masterLabelId)

/-- The packages that wait for their collection go into the van, each with a log of the scan. -/
def collectPackages (db : ExecutionDb) (path : StopPath) (deliveryStopId : Id)
    (scanValue : String) (toUpdate : List PackageRow) : ExecutionDb :=
  toUpdate.foldl (fun db p => (db.updatePackageStatus p .loadedForDelivery none).createScanLog
    path deliveryStopId (some p.id) scanValue "MASTER_LABEL_MATCHED") db

/-- `scan_stop_package`. -/
def scanStopPackage (env : DriverEnv) (db : ExecutionDb) (path : StopPath)
    (scanValue : String) : Except ServiceError ExecutionDb := do
  let (stop, deliveryStopId) ← resolveExecutionContext db path
  validateNotesAckGate env db path
  let flow := stop.stopFlowType
  let rawScan := strip scanValue
  match ← resolveByScanValue env db rawScan with
  | some package => do
      raiseIf (package.deliveryStopId ≠ some deliveryStopId)
        (invalid "This package does not belong to the selected stop")
      -- On every leg a package is finalized when it is not pending.
      raiseIf (isPending flow package.status = false) (invalid "Package is already finalized")
      return db.createScanLog path deliveryStopId (some package.id) scanValue "MATCHED"
  | none => do
      raiseIf (isMasterLabelOf db flow deliveryStopId rawScan = false)
        (invalid "Package not found for scanned value")
      let packages := db.listForDeliveryStop deliveryStopId
      raiseIf (packages = []) (invalid "No packages linked to this stop")
      let toUpdate := packages.filter fun p => p.status ∈ packagePrePickupForScanStatuses
      if toUpdate = [] then
        return db.createScanLog path deliveryStopId none scanValue
          "MASTER_LABEL_ALREADY_COLLECTED"
      else return collectPackages db path deliveryStopId scanValue toUpdate

/-- `_package_status_from_driver_patch_request`. -/
def packageStatusFromDriverPatchRequest (env : DriverEnv) (flow : RouteStopFlowType)
    (statusRaw : String) : Except ServiceError PackageStatus := do
  let raw := env.upper (strip statusRaw)
  raiseIf (raw = "") (invalid "status is required")
  match flow with
  | .delivery => do
      raiseIf (raw = "RETURNED_TO_SENDER" ∨ raw = "SENDER_NOT_HOME")
        (invalid ("On delivery stops use CUSTOMER_NOT_HOME for Customer not home, not "
          ++ "SENDER_NOT_HOME or RETURNED_TO_SENDER"))
      let st ← orRaise (PackageStatus.ofValue raw) (invalid "Unknown package status")
      raiseIf (st ∉ packageDriverPatchDeliveryStatuses)
        (invalid ("This status is not valid on delivery stops. Use DELIVERED_TO_CUSTOMER, "
          ++ "LEFT_AT_SAFE_PLACE, CUSTOMER_NOT_HOME, or REFUSED_BY_CUSTOMER."))
      return st
  | .returnLeg => do
      raiseIf (raw = "RETURNED")
        (invalid "On return stops use RETURNED_TO_SENDER (not the legacy RETURNED value).")
      raiseIf (raw = "CUSTOMER_NOT_HOME")
        (invalid ("On return stops use SENDER_NOT_HOME (not CUSTOMER_NOT_HOME; that label is "
          ++ "for delivery only)."))
      if raw = "DISPOSED" then return .disposed
      else if raw = "RETURNED_TO_SENDER" then return .returned
      else if raw = "SENDER_NOT_HOME" then return .customerNotHome
      else .error (invalid ("This status is not valid on return stops. Use "
        ++ "RETURNED_TO_SENDER, SENDER_NOT_HOME, or DISPOSED."))
  | .pickup => .error (invalid "Unsupported stop_flow_type for package status finalization")

/-- A recorded return outcome may not become another one. -/
def outcomeConflicts (package : PackageRow) (st : PackageStatus) : Prop :=
  package.status ∈ packageStopReturnHubCompleteStatuses ∧ package.status ≠ st

instance (package : PackageRow) (st : PackageStatus) : Decidable (outcomeConflicts package st) :=
  inferInstanceAs (Decidable (_ ∧ _))

/-- `set_stop_package_status`. -/
def setStopPackageStatus (env : DriverEnv) (db : ExecutionDb) (path : StopPath)
    (packageId status : String) (actorUserId : Option Id) :
    Except ServiceError ExecutionDb := do
  let (stop, deliveryStopId) ← resolveExecutionContext db path
  validateNotesAckGate env db path
  let package ← getPackageOr404 env db packageId
  raiseIf (package.deliveryStopId ≠ some deliveryStopId)
    (invalid "This package does not belong to the selected stop")
  let flow := stop.stopFlowType
  raiseIf (flow = .pickup) (invalid ("Package status cannot be set on pickup stops; use "
    ++ "package scan or master-label scan"))
  let st ← packageStatusFromDriverPatchRequest env flow status
  raiseIf (flow = .returnLeg ∧ outcomeConflicts package st)
    (invalid ("Return outcome is already recorded for this package; contact dispatch to "
      ++ "change it"))
  return db.updatePackageStatus package st actorUserId

/-- `RETURN_STOP_BATCH_MAX_PACKAGES`. -/
def returnStopBatchMaxPackages : ℕ := 100

/-- `list(dict.fromkeys(pid.strip() for pid in package_ids if pid and pid.strip()))`. -/
def distinctPackageIds (packageIds : List String) : List String :=
  ((packageIds.map strip).filter (· ≠ "")).eraseDups

/-- `set_return_stop_packages_status_batch`. -/
def setReturnStopPackagesStatusBatch (env : DriverEnv) (db : ExecutionDb) (path : StopPath)
    (packageIds : List String) (status : String) (actorUserId : Option Id) :
    Except ServiceError ExecutionDb := do
  let (stop, deliveryStopId) ← resolveExecutionContext db path
  validateNotesAckGate env db path
  let flow := stop.stopFlowType
  raiseIf (flow ≠ .returnLeg) (invalid ("Batch package status is only supported on return "
    ++ "stops. For delivery stops use PATCH …/packages/\x7bpackage_id\x7d/status per package; "
    ++ "for pickup stops use scans and complete the stop."))
  let unique := distinctPackageIds packageIds
  raiseIf (unique = []) (invalid "package_ids must include at least one package id")
  raiseIf (returnStopBatchMaxPackages < unique.length)
    (invalid "At most 100 distinct packages are allowed per batch request")
  let st ← packageStatusFromDriverPatchRequest env flow status
  let packages ← listForDeliveryStopByPackageIds env db deliveryStopId unique
  raiseIf (packages.length ≠ unique.length)
    (invalid "One or more package_ids are not on this stop or do not exist")
  let ordered ← mapEach (fun text => orRaise (packages.find? fun p => env.uuid.write p.id = text)
    (.uncaught "KeyError")) unique
  checkEach (fun package => raiseIf (outcomeConflicts package st)
    (invalid ("Return outcome is already recorded for one or more packages; contact dispatch "
      ++ "to change it"))) ordered
  return ordered.foldl (fun db package => db.updatePackageStatus package st actorUserId) db

/-- `report_missing_package`. -/
def reportMissingPackage (env : DriverEnv) (db : ExecutionDb) (path : StopPath)
    (packageId reasonCode : String) (details : Option String) (actorUserId : Option Id) :
    Except ServiceError ExecutionDb := do
  let (_, deliveryStopId) ← resolveExecutionContext db path
  let package ← getPackageOr404 env db packageId
  raiseIf (package.deliveryStopId ≠ some deliveryStopId)
    (invalid "This package does not belong to the selected stop")
  validateNotesAckGate env db path
  let db := db.updatePackageStatus package .missing actorUserId
  let report : PackageMissingReport := ⟨package.id, path.routeId, path.stopId, deliveryStopId,
    path.driverId, reasonCode, details⟩
  return { db with missingReports := db.missingReports ++ [report] }

/-- One round of the loop of `pickup_scan_packages_for_order`. -/
def loadPackage (env : DriverEnv) (path : StopPath) (db : ExecutionDb) (package : PackageRow) :
    ExecutionDb :=
  if package.status = .loadedForDelivery then db
  else
    let db := db.updatePackageStatus package .loadedForDelivery none
    let scanValue := if package.packageId = "" then env.uuid.write package.id
      else package.packageId
    match package.deliveryStopId with
    | some deliveryStopId => db.createScanLog path deliveryStopId (some package.id) scanValue
        "loaded_for_delivery"
    | none => db

/-- `pickup_scan_packages_for_order`. -/
def pickupScanPackagesForOrder (env : DriverEnv) (db : ExecutionDb) (path : StopPath)
    (packageIds : Option (List String)) : Except ServiceError ExecutionDb := do
  let _ ← getRouteForDriverOr404 db path
  let stop ← orRaise (getRouteStop db path) (.notFound "route_stop" (some path.stopId))
  let orderId ← orRaise stop.orderId
    (invalid "Selected route stop is not a pickup-flow stop linked to an order")
  let order ← orRaise (db.orders.find? orderId) (.notFound "order" (some orderId))
  let packages := db.listForOrder order.id
  raiseIf (packages = []) (invalid "No packages found for this pickup order")
  let allowed := packageIds.getD []
  let chosen := if allowed = [] then packages
    else packages.filter fun p => env.uuid.write p.id ∈ allowed
  raiseIf (chosen = []) (invalid "None of the supplied package_ids belong to this order")
  return chosen.foldl (loadPackage env path) db

/-! ### Proof of delivery -/

/-- The most photos that a delivery stop may have. -/
def maxPodPhotos : ℕ := 5

/-- The image types that may be uploaded. -/
def allowedPodTypes : List String := ["image/jpeg", "image/png"]

/-- `_validate_upload`, for at most five megabytes. -/
def validateUpload (upload : UploadFile) : Except ServiceError Unit := do
  raiseIf ((upload.contentType.getD "").toLower ∉ allowedPodTypes)
    (invalid "Unsupported file type")
  raiseIf (5 * 1024 * 1024 < upload.size) (invalid "File too large (max 5MB)")

/-- The loop of `create_stop_pod_upload_url`: one photo after the other, from a sort order
on. -/
def uploadPhotos (env : DriverEnv) (deliveryStopId driverId : Id) :
    ℕ → List UploadFile → ExecutionDb → Except ServiceError ExecutionDb
  | _, [], db => .ok db
  | nextSort, upload :: uploads, db => do
      raiseIf ((upload.contentType.getD "").toLower ∉ allowedPodTypes)
        (invalid "Unsupported image type; only JPEG and PNG are allowed")
      validateUpload upload
      let imageId ← env.uploadImage upload
      let db ← db.createPodPhoto deliveryStopId imageId nextSort driverId
      uploadPhotos env deliveryStopId driverId (nextSort + 1) uploads db

/-- `create_stop_pod_upload_url`. -/
def createStopPodUploadUrl (env : DriverEnv) (db : ExecutionDb) (path : StopPath)
    (uploads : List UploadFile) : Except ServiceError ExecutionDb := do
  let (_, deliveryStopId) ← resolveExecutionContext db path
  let db := db.getOrCreateStopPod deliveryStopId
  let photos := db.listPodPhotos deliveryStopId
  raiseIf (uploads = []) (invalid "At least one photo is required")
  raiseIf (maxPodPhotos < uploads.length)
    (invalid "Maximum 5 photos can be uploaded per request")
  raiseIf (maxPodPhotos < photos.length + uploads.length)
    (invalid "Maximum of 5 POD photos is allowed")
  let db ← uploadPhotos env deliveryStopId path.driverId (photos.length + 1) uploads db
  return db.modifyStopPod deliveryStopId
    (fun pod => { pod with photosCount := photos.length + uploads.length }) fun _ => rfl

/-- `confirm_stop_pod_photo`. -/
def confirmStopPodPhoto (db : ExecutionDb) (path : StopPath) (imageKey : String) :
    Except ServiceError ExecutionDb := do
  let (_, deliveryStopId) ← resolveExecutionContext db path
  let db := db.getOrCreateStopPod deliveryStopId
  let photos := db.listPodPhotos deliveryStopId
  raiseIf (maxPodPhotos ≤ photos.length) (invalid "Maximum of 5 POD photos is allowed")
  if imageKey ∈ photos.map (·.imageKey) then return db
  else
    let db ← db.createPodPhoto deliveryStopId imageKey (photos.length + 1) path.driverId
    return db.modifyStopPod deliveryStopId
      (fun pod => { pod with photosCount := photos.length + 1 }) fun _ => rfl

/-- `delete_stop_pod_photo`. -/
def deleteStopPodPhoto (db : ExecutionDb) (path : StopPath) (photoId : Id) :
    Except ServiceError ExecutionDb := do
  let (_, deliveryStopId) ← resolveExecutionContext db path
  raiseIf (∀ photo ∈ db.listPodPhotos deliveryStopId, photo.id ≠ photoId)
    (.notFound "stop_pod_photo" (some photoId))
  let db := { db with podPhotos := db.podPhotos.deleteWhere fun photo => photo.id = photoId }
  let db := db.getOrCreateStopPod deliveryStopId
  let photos := db.listPodPhotos deliveryStopId
  return db.modifyStopPod deliveryStopId (fun pod => { pod with photosCount := photos.length })
    fun _ => rfl

/-- `save_stop_signature`. -/
def saveStopSignature (db : ExecutionDb) (path : StopPath) (signatureImageKey : String)
    (signatureRequired : Option Bool) : Except ServiceError ExecutionDb := do
  let (_, deliveryStopId) ← resolveExecutionContext db path
  let db := db.getOrCreateStopPod deliveryStopId
  return db.modifyStopPod deliveryStopId
    (fun pod => { pod with
      signatureImageKey := some signatureImageKey
      signatureRequiredSnapshot := signatureRequired.getD pod.signatureRequiredSnapshot })
    fun _ => rfl

/-! ### Completing a stop -/

/-- The gates of a stop beside its notes, with what they were computed from. -/
structure StopGates where
  returnRequiresPod : Bool
  packagesOk : Bool
  podOk : Bool
  signatureOk : Bool
  pendingPackageIds : List Id
  photoCount : ℕ
  signatureRequired : Bool
  signatureCaptured : Bool
  stopPodRequired : Bool
  deriving DecidableEq

/-- The gates that `_build_stop_delivery_readiness` computes for a stop of a flow from the
delivery stop that it serves. -/
def stopGates (db : ExecutionDb) (flow : RouteStopFlowType) (deliveryStopId : Id) :
    StopGates :=
  let packages := db.listForDeliveryStop deliveryStopId
  let pending := pendingPackageIdsForStopFlow flow packages
  let pod := db.stopPod deliveryStopId
  let photoCount := (db.listPodPhotos deliveryStopId).length
  let signatureRequired := pod.signatureRequiredSnapshot ||
    (db.deliveryStops.find? deliveryStopId).any (·.signatureRequired)
  let signatureCaptured := decide (pod.signatureImageKey.getD "" ≠ "")
  let returnNeedsPod := decide (flow = .returnLeg) &&
    packages.any fun p => p.status ∈ packageReturnFlowRequiresStopPodStatuses
  let photosOk := decide (1 ≤ photoCount ∧ photoCount ≤ maxPodPhotos)
  { returnRequiresPod := returnNeedsPod
    packagesOk := pending = []
    podOk := match flow with
      | .delivery => photosOk
      | .returnLeg => if returnNeedsPod then photosOk else true
      | .pickup => true
    signatureOk := match flow with
      | .delivery => !signatureRequired || signatureCaptured
      | .returnLeg => true
      | .pickup => true
    pendingPackageIds := pending
    photoCount := photoCount
    signatureRequired := signatureRequired
    signatureCaptured := signatureCaptured
    stopPodRequired := decide (flow = .delivery) || returnNeedsPod }

/-- What `_build_stop_delivery_readiness` returns. -/
structure StopReadiness extends StopGates where
  deliveryStopId : Id
  stopFlowType : RouteStopFlowType
  masterLabelId : Option String
  notesOk : Bool
  notesHash : String
  acknowledged : Bool
  requiresAcknowledgement : Bool

/-- `_build_stop_delivery_readiness`; it creates the proof-of-delivery row on the way. -/
def buildStopDeliveryReadiness (env : DriverEnv) (db : ExecutionDb) (path : StopPath) :
    Except ServiceError (ExecutionDb × StopReadiness) := do
  let (stop, deliveryStopId) ← resolveExecutionContext db path
  let flow := stop.stopFlowType
  let notes ← getStopNotesPayload env db path
  let db := db.getOrCreateStopPod deliveryStopId
  let order := (db.deliveryStops.find? deliveryStopId).bind fun dstop =>
    db.orders.find? dstop.orderId
  let acknowledged := notes.acknowledgement.isSome
  return (db, { stopGates db flow deliveryStopId with
    deliveryStopId := deliveryStopId
    stopFlowType := flow
    masterLabelId := if flow = .pickup then order.map (·.masterLabelId) else none
    notesOk := !notes.requiresAcknowledgement || acknowledged
    notesHash := notes.notesHash
    acknowledged := acknowledged
    requiresAcknowledgement := notes.requiresAcknowledgement })

/-- What `complete_stop_delivery` writes to the stop. -/
def RouteStop.complete (now : Instant) (notes : Option String) (stop : RouteStop) : RouteStop :=
  { stop with
    status := .completed
    actualArrival := some (stop.actualArrival.getD now)
    notes := notes.or stop.notes }

theorem RouteStop.id_complete (now : Instant) (notes : Option String) (stop : RouteStop) :
    (stop.complete now notes).id = stop.id := rfl

/-- `complete_stop_delivery`. -/
def completeStopDelivery (env : DriverEnv) (db : ExecutionDb) (path : StopPath)
    (notes : Option String) (now : Instant) : Except ServiceError ExecutionDb := do
  let (_, deliveryStopId) ← resolveExecutionContext db path
  let (db, readiness) ← buildStopDeliveryReadiness env db path
  raiseIf (readiness.notesOk = false) (invalid "NOTES_ACK_REQUIRED")
  raiseIf (readiness.packagesOk = false) (invalid "STOP_NOT_READY")
  raiseIf (readiness.podOk = false) (invalid "POD_INCOMPLETE")
  raiseIf (readiness.signatureOk = false) (invalid "SIGNATURE_REQUIRED")
  let db := db.modifyStopPod deliveryStopId (fun pod => { pod with completedAt := some now })
    fun _ => rfl
  let routeStops := db.routeStops.modify path.stopId (RouteStop.complete now notes)
    (RouteStop.id_complete now notes)
  return { db with routeStops := routeStops }

/-! ### Requests -/

/-- What a driver asks for at a stop. -/
inductive StopOp where
  | acknowledgeStopNotes (notesHash : String)
  | scanStopPackage (scanValue : String)
  | setStopPackageStatus (packageId status : String)
  | setReturnStopPackagesStatusBatch (packageIds : List String) (status : String)
  | reportMissingPackage (packageId reasonCode : String) (details : Option String)
  | createStopPodUploadUrl (uploads : List UploadFile)
  | confirmStopPodPhoto (imageKey : String)
  | deleteStopPodPhoto (photoId : Id)
  | saveStopSignature (signatureImageKey : String) (signatureRequired : Option Bool)
  | completeStopDelivery (notes : Option String)

/-- A request: the operation, the stop and the driver, who acts and when. -/
structure StopRequest where
  env : DriverEnv
  path : StopPath
  actorUserId : Option Id
  now : Instant
  op : StopOp

/-- What a request does to the database. -/
def StopRequest.exec (db : ExecutionDb) (request : StopRequest) :
    Except ServiceError ExecutionDb :=
  match request.op with
  | .acknowledgeStopNotes notesHash =>
      acknowledgeStopNotes request.env db request.path notesHash request.now
  | .scanStopPackage scanValue => scanStopPackage request.env db request.path scanValue
  | .setStopPackageStatus packageId status =>
      setStopPackageStatus request.env db request.path packageId status request.actorUserId
  | .setReturnStopPackagesStatusBatch packageIds status =>
      setReturnStopPackagesStatusBatch request.env db request.path packageIds status
        request.actorUserId
  | .reportMissingPackage packageId reasonCode details =>
      reportMissingPackage request.env db request.path packageId reasonCode details
        request.actorUserId
  | .createStopPodUploadUrl uploads =>
      createStopPodUploadUrl request.env db request.path uploads
  | .confirmStopPodPhoto imageKey => confirmStopPodPhoto db request.path imageKey
  | .deleteStopPodPhoto photoId => deleteStopPodPhoto db request.path photoId
  | .saveStopSignature signatureImageKey signatureRequired =>
      saveStopSignature db request.path signatureImageKey signatureRequired
  | .completeStopDelivery notes =>
      completeStopDelivery request.env db request.path notes request.now

/-- One request as a transaction. -/
def StopRequest.step (db : ExecutionDb) (request : StopRequest) : ExecutionDb :=
  settle db (request.exec db)

/-! ### A route with one stop -/

/-- An environment for stops without notes: the hash is the one of the empty list. -/
def plainEnv : DriverEnv where
  uuid := decimalUuid
  upper := id
  sha256 := fun _ => "4f53cda18c2baa0c0354bb5f9a3ecbe5ed12ab4d8e11ba873c2f11161202b945"
  uploadImage := fun _ => .ok "cf-image-1"

/-- A driver's route whose only stop serves an order with one delivery stop. -/
def oneStopDb (flow : RouteStopFlowType) (packages : Table PackageRow.id) : ExecutionDb where
  routes := .singleton ⟨1, some 1⟩
  routeStops := .singleton ⟨1, 1, some 1, some 1, .arrived, flow, none, none⟩
  orders := .singleton ⟨1, "ML-0000000001"⟩
  deliveryStops := .singleton ⟨1, 1, false⟩
  packages := packages
  stopNotes := []
  stopNoteImages := []
  acknowledgements := .empty
  pods := .empty
  podPhotos := .empty
  packageEvents := []
  scanLogs := []
  missingReports := []

/-- A request of that driver at that stop. -/
def stopRequest (op : StopOp) : StopRequest := ⟨plainEnv, ⟨1, 1, 1⟩, some 1, 0, op⟩

end SwCouriers
