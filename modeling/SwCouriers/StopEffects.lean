import SwCouriers.StopExecution

/-!
# What an Accepted Request Does

For each operation of a driver at a stop, the database after it was accepted: which checks it
passed and what it wrote. Everything later about stops is read off these lemmas, and nothing
unfolds an operation again.

Statuses are written package by package, in a loop over the packages that were loaded before.
`recorded` is what such a loop comes to: the packages of the loop have the new status, and the
others are as they were.

## Main results

* `packages_foldl`: a loop of status writes records the status on the packages of the loop.
* `scanStopPackage_ok`, `setStopPackageStatus_ok`, `setReturnStopPackagesStatusBatch_ok`,
  `reportMissingPackage_ok`: the operations on packages.
* `createStopPodUploadUrl_ok` and its siblings: photos and signature.
* `completeStopDelivery_ok`: a stop that was completed passed its gates.
* `routeStop_step`: no request changes what a route stop is.
-/

namespace SwCouriers

open Checked

/-! ### Recording a status -/

/-- A package with a status recorded on it if its key is listed. -/
def PackageRow.record (ids : List Id) (status : PackageStatus) (p : PackageRow) : PackageRow :=
  if p.id ∈ ids then { p with status := status } else p

section Record

variable {ids : List Id} {status : PackageStatus} {p : PackageRow}

theorem PackageRow.record_of_mem (h : p.id ∈ ids) :
    p.record ids status = { p with status := status } := if_pos h

theorem PackageRow.record_of_notMem (h : p.id ∉ ids) : p.record ids status = p := if_neg h

@[simp] theorem PackageRow.id_record : (p.record ids status).id = p.id := by
  unfold PackageRow.record
  split_ifs <;> rfl

@[simp] theorem PackageRow.deliveryStopId_record :
    (p.record ids status).deliveryStopId = p.deliveryStopId := by
  unfold PackageRow.record
  split_ifs <;> rfl

@[simp] theorem PackageRow.orderId_record : (p.record ids status).orderId = p.orderId := by
  unfold PackageRow.record
  split_ifs <;> rfl

/-- Recording the status that a package has changes nothing. -/
theorem PackageRow.record_self (h : p.id ∈ ids → p.status = status) :
    p.record ids status = p := by
  by_cases hid : p.id ∈ ids
  · rw [PackageRow.record_of_mem hid, ← h hid]
  · exact PackageRow.record_of_notMem hid

theorem PackageRow.record_record (jds : List Id) :
    (p.record ids status).record jds status = p.record (ids ++ jds) status := by
  by_cases hid : p.id ∈ ids
  · rw [PackageRow.record_of_mem hid, PackageRow.record_of_mem (List.mem_append_left _ hid)]
    exact PackageRow.record_self fun _ => rfl
  · rw [PackageRow.record_of_notMem hid]
    unfold PackageRow.record
    simp only [List.mem_append, hid, false_or]

end Record

/-- The packages with a status recorded on some of them. -/
def recorded (packages : Table PackageRow.id) (ids : List Id) (status : PackageStatus) :
    Table PackageRow.id :=
  packages.mapRows (PackageRow.record ids status) fun _ => PackageRow.id_record

variable {actor : Option Id} {loaded : List PackageRow} {stop : RouteStop} {deliveryStopId : Id}

section Recorded

variable {packages : Table PackageRow.id} {ids : List Id} {status : PackageStatus}

theorem rows_recorded :
    (recorded packages ids status).rows = packages.rows.map (PackageRow.record ids status) := rfl

theorem find?_recorded (id : Id) : (recorded packages ids status).find? id
    = (packages.find? id).map (PackageRow.record ids status) :=
  Table.find?_mapRows _ _ _ _

theorem recorded_self (h : ∀ p ∈ packages.rows, p.id ∈ ids → p.status = status) :
    recorded packages ids status = packages := by
  refine Table.ext ?_
  rw [rows_recorded]
  exact (List.map_congr_left fun p hp => PackageRow.record_self (h p hp)).trans (List.map_id _)

theorem recorded_congr {jds : List Id} (h : ∀ id, id ∈ ids ↔ id ∈ jds) :
    recorded packages ids status = recorded packages jds status := by
  refine Table.ext (List.map_congr_left fun p _ => ?_)
  unfold PackageRow.record
  simp only [h]

theorem recorded_recorded (jds : List Id) :
    recorded (recorded packages ids status) jds status = recorded packages (ids ++ jds) status := by
  refine Table.ext ?_
  rw [rows_recorded, rows_recorded, rows_recorded, List.map_map]
  exact List.map_congr_left fun p _ => PackageRow.record_record jds

/-- The loaded package is the stored one, unless its status was written since. -/
def Loaded (packages : Table PackageRow.id) (status : PackageStatus) (p : PackageRow) : Prop :=
  ∀ r ∈ packages.rows, r.id = p.id → r = p ∨ r.status = status

theorem loaded_of_mem {p : PackageRow} (hp : p ∈ packages.rows) : Loaded packages status p :=
  fun _ hr hid => .inl (Table.eq_of_key hr hp hid)

/-- `update_package_status` records the status. -/
theorem packages_updatePackageStatus {db : ExecutionDb} {p : PackageRow}
    (hp : Loaded db.packages status p) :
    (db.updatePackageStatus p status actor).packages = recorded db.packages [p.id] status := by
  unfold ExecutionDb.updatePackageStatus
  split_ifs with hstatus
  · refine (recorded_self fun r hr hid => ?_).symm
    rcases hp r hr (List.mem_singleton.mp hid) with rfl | h
    · exact hstatus
    · exact h
  · refine Table.ext (List.map_congr_left fun r _ => ?_)
    unfold PackageRow.record
    simp only [List.mem_singleton]

theorem Loaded.recorded {p : PackageRow} (h : Loaded packages status p) :
    Loaded (recorded packages ids status) status p := by
  intro r hr hid
  obtain ⟨r₀, hr₀, rfl⟩ := List.mem_map.mp hr
  rw [PackageRow.id_record] at hid
  by_cases hmem : r₀.id ∈ ids
  · right
    rw [PackageRow.record_of_mem hmem]
  · rw [PackageRow.record_of_notMem hmem]
    exact h r₀ hr₀ hid

/-- **A loop of status writes** records the status on the packages of the loop. -/
theorem packages_foldl {f : ExecutionDb → PackageRow → ExecutionDb}
    (hf : ∀ db p, Loaded db.packages status p →
      (f db p).packages = SwCouriers.recorded db.packages [p.id] status) {db : ExecutionDb}
    (h : ∀ p ∈ loaded, Loaded db.packages status p) :
    (loaded.foldl f db).packages
      = SwCouriers.recorded db.packages (loaded.map (·.id)) status := by
  induction loaded generalizing db with
  | nil => exact (recorded_self fun _ _ hid => absurd hid List.not_mem_nil).symm
  | cons p loaded ih =>
      obtain ⟨hp, hrest⟩ := List.forall_mem_cons.mp h
      have hround := hf db p hp
      rw [List.foldl_cons, ih fun q hq => by
        rw [hround]
        exact (hrest q hq).recorded]
      rw [hround, recorded_recorded]
      rfl

end Recorded

/-! ### What is left alone -/

/-- Nothing but packages and the records about them was written. -/
structure PackagesOnly (db db' : ExecutionDb) : Prop where
  routes : db'.routes = db.routes
  routeStops : db'.routeStops = db.routeStops
  orders : db'.orders = db.orders
  deliveryStops : db'.deliveryStops = db.deliveryStops
  stopNotes : db'.stopNotes = db.stopNotes
  stopNoteImages : db'.stopNoteImages = db.stopNoteImages
  acknowledgements : db'.acknowledgements = db.acknowledgements
  pods : db'.pods = db.pods
  podPhotos : db'.podPhotos = db.podPhotos

/-- Nothing but the proof of delivery was written. -/
structure PodOnly (db db' : ExecutionDb) : Prop where
  routeStops : db'.routeStops = db.routeStops
  deliveryStops : db'.deliveryStops = db.deliveryStops
  packages : db'.packages = db.packages

theorem PackagesOnly.refl (db : ExecutionDb) : PackagesOnly db db :=
  ⟨rfl, rfl, rfl, rfl, rfl, rfl, rfl, rfl, rfl⟩

theorem PackagesOnly.trans {db₁ db₂ db₃ : ExecutionDb} (h : PackagesOnly db₁ db₂)
    (h' : PackagesOnly db₂ db₃) : PackagesOnly db₁ db₃ where
  routes := h'.routes.trans h.routes
  routeStops := h'.routeStops.trans h.routeStops
  orders := h'.orders.trans h.orders
  deliveryStops := h'.deliveryStops.trans h.deliveryStops
  stopNotes := h'.stopNotes.trans h.stopNotes
  stopNoteImages := h'.stopNoteImages.trans h.stopNoteImages
  acknowledgements := h'.acknowledgements.trans h.acknowledgements
  pods := h'.pods.trans h.pods
  podPhotos := h'.podPhotos.trans h.podPhotos

theorem PackagesOnly.foldl {f : ExecutionDb → PackageRow → ExecutionDb}
    (hf : ∀ db p, PackagesOnly db (f db p)) (loaded : List PackageRow) (db : ExecutionDb) :
    PackagesOnly db (loaded.foldl f db) := by
  induction loaded generalizing db with
  | nil => exact .refl db
  | cons p loaded ih => exact (hf db p).trans (ih _)

theorem packagesOnly_updatePackageStatus (db : ExecutionDb) (p : PackageRow)
    (status : PackageStatus) (actor : Option Id) :
    PackagesOnly db (db.updatePackageStatus p status actor) := by
  unfold ExecutionDb.updatePackageStatus
  split_ifs
  · exact .refl db
  · exact ⟨rfl, rfl, rfl, rfl, rfl, rfl, rfl, rfl, rfl⟩

theorem packagesOnly_createScanLog (db : ExecutionDb) (path : StopPath) (deliveryStopId : Id)
    (packageId : Option Id) (scanValue result : String) :
    PackagesOnly db (db.createScanLog path deliveryStopId packageId scanValue result) :=
  ⟨rfl, rfl, rfl, rfl, rfl, rfl, rfl, rfl, rfl⟩

/-! ### The path of a request -/

theorem resolveExecutionContext_eq_ok {db : ExecutionDb} {path : StopPath} :
    resolveExecutionContext db path = .ok (stop, deliveryStopId) ↔
      (∃ route, getRouteForDriverOr404 db path = .ok route) ∧
        getRouteStop db path = some stop ∧ stop.deliveryStopId = some deliveryStopId := by
  unfold resolveExecutionContext
  constructor
  · intro h
    obtain ⟨route, hroute, h⟩ := bind_eq_ok.mp h
    obtain ⟨stop', hstop, h⟩ := bind_eq_ok.mp h
    obtain ⟨d, hd, h⟩ := bind_eq_ok.mp h
    obtain ⟨rfl, rfl⟩ := Prod.mk.inj (pure_eq_ok.mp h)
    exact ⟨⟨route, hroute⟩, orRaise_eq_ok.mp hstop, orRaise_eq_ok.mp hd⟩
  · rintro ⟨⟨route, hroute⟩, hstop, hd⟩
    refine bind_eq_ok.mpr ⟨route, hroute, bind_eq_ok.mpr ⟨stop, orRaise_eq_ok.mpr hstop, ?_⟩⟩
    exact bind_eq_ok.mpr ⟨deliveryStopId, orRaise_eq_ok.mpr hd, rfl⟩

theorem getRouteStop_eq_some {db : ExecutionDb} {path : StopPath} :
    getRouteStop db path = some stop ↔
      db.routeStops.find? path.stopId = some stop ∧ stop.routeId = path.routeId := by
  rw [getRouteStop, Option.filter_eq_some_iff, decide_eq_true_eq]

/-- The stop of a request that was accepted. -/
theorem find?_of_context {db : ExecutionDb} {path : StopPath}
    (h : resolveExecutionContext db path = .ok (stop, deliveryStopId)) :
    db.routeStops.find? path.stopId = some stop ∧ stop.deliveryStopId = some deliveryStopId := by
  obtain ⟨-, hstop, hd⟩ := resolveExecutionContext_eq_ok.mp h
  exact ⟨(getRouteStop_eq_some.mp hstop).1, hd⟩

theorem getPackageOr404_eq_ok {env : DriverEnv} {db : ExecutionDb} {packageId : String}
    {package : PackageRow} : getPackageOr404 env db packageId = .ok package ↔
      env.uuid.read packageId = some package.id ∧ package ∈ db.packages.rows := by
  unfold getPackageOr404
  constructor
  · intro h
    obtain ⟨id, hid, h⟩ := bind_eq_ok.mp h
    obtain ⟨hmem, rfl⟩ := Table.find?_eq_some_iff.mp (orRaise_eq_ok.mp h)
    exact ⟨orRaise_eq_ok.mp hid, hmem⟩
  · rintro ⟨hid, hmem⟩
    refine bind_eq_ok.mpr ⟨package.id, orRaise_eq_ok.mpr hid, ?_⟩
    exact orRaise_eq_ok.mpr (Table.find?_eq_some_iff.mpr ⟨hmem, rfl⟩)

/-- An acknowledgement writes nothing else. -/
theorem acknowledgeStopNotes_ok {env : DriverEnv} {db db' : ExecutionDb} {path : StopPath}
    {notesHash : String} {now : Instant}
    (h : acknowledgeStopNotes env db path notesHash now = .ok db') :
    ∃ acks, db' = { db with acknowledgements := acks } := by
  obtain ⟨⟨stop, d⟩, -, h⟩ := bind_eq_ok.mp h
  obtain ⟨payload, -, h⟩ := bind_eq_ok.mp h
  replace h := ok_of_check h
  exact ⟨_, (pure_eq_ok.mp h).symm⟩

/-! ### Packages -/

section Packages

variable {env : DriverEnv} {db db' : ExecutionDb} {path : StopPath}

/-- The packages of a stop that the master label collects. -/
def toCollect (db : ExecutionDb) (deliveryStopId : Id) : List PackageRow :=
  (db.listForDeliveryStop deliveryStopId).filter
    fun p => p.status ∈ packagePrePickupForScanStatuses

theorem mem_toCollect {p : PackageRow} :
    p ∈ toCollect db deliveryStopId ↔ p ∈ db.packages.rows ∧
      p.deliveryStopId = some deliveryStopId ∧ p.status ∈ packagePrePickupForScanStatuses := by
  simp only [toCollect, ExecutionDb.listForDeliveryStop, List.mem_filter, decide_eq_true_eq,
    and_assoc]

theorem packages_collectPackages {scanValue : String} (h : ∀ p ∈ loaded, p ∈ db.packages.rows) :
    (collectPackages db path deliveryStopId scanValue loaded).packages
      = recorded db.packages (loaded.map (·.id)) .loadedForDelivery := by
  refine packages_foldl (fun db p hp => ?_) fun p hp => loaded_of_mem (h p hp)
  exact packages_updatePackageStatus hp

theorem packagesOnly_collectPackages {scanValue : String} :
    PackagesOnly db (collectPackages db path deliveryStopId scanValue loaded) :=
  .foldl (fun db p => (packagesOnly_updatePackageStatus db p _ _).trans
    (packagesOnly_createScanLog _ _ _ _ _ _)) loaded db

/-- A scan that was accepted: of a package, which it leaves as it is, or of the master label
at a pickup stop, which loads the packages that wait there. -/
theorem scanStopPackage_ok {scanValue : String}
    (h : scanStopPackage env db path scanValue = .ok db') :
    PackagesOnly db db' ∧ ∃ stop deliveryStopId,
      resolveExecutionContext db path = .ok (stop, deliveryStopId) ∧
        (db'.packages = db.packages ∨ stop.stopFlowType = .pickup ∧
          db'.packages = recorded db.packages ((toCollect db deliveryStopId).map (·.id))
            .loadedForDelivery) := by
  obtain ⟨⟨stop, d⟩, hctx, h⟩ := bind_eq_ok.mp h
  replace h := ok_of_check h
  obtain ⟨found, -, h⟩ := bind_eq_ok.mp h
  cases found with
  | some package =>
      replace h := ok_of_check h
      replace h := ok_of_check h
      obtain rfl := pure_eq_ok.mp h
      exact ⟨packagesOnly_createScanLog _ _ _ _ _ _, stop, d, hctx, .inl rfl⟩
  | none =>
      obtain ⟨hmatch, h⟩ := raiseIf_bind_eq_ok.mp h
      replace h := ok_of_check h
      have hflow : stop.stopFlowType = .pickup := by
        simp only [isMasterLabelOf, Bool.and_eq_false_iff, not_or, decide_eq_false_iff_not,
          not_not] at hmatch
        exact hmatch.1
      dsimp only at h
      split_ifs at h
      · obtain rfl := pure_eq_ok.mp h
        exact ⟨packagesOnly_createScanLog _ _ _ _ _ _, stop, d, hctx, .inl rfl⟩
      · obtain rfl := pure_eq_ok.mp h
        exact ⟨packagesOnly_collectPackages, stop, d, hctx, .inr ⟨hflow,
          packages_collectPackages fun p hp => (mem_toCollect.mp hp).1⟩⟩

/-- A status that was set. -/
theorem setStopPackageStatus_eq_ok {packageId status : String} :
    setStopPackageStatus env db path packageId status actor = .ok db' ↔
      ∃ stop deliveryStopId package st,
        resolveExecutionContext db path = .ok (stop, deliveryStopId) ∧
        validateNotesAckGate env db path = .ok () ∧
        env.uuid.read packageId = some package.id ∧ package ∈ db.packages.rows ∧
        package.deliveryStopId = some deliveryStopId ∧ stop.stopFlowType ≠ .pickup ∧
        packageStatusFromDriverPatchRequest env stop.stopFlowType status = .ok st ∧
        ¬ (stop.stopFlowType = .returnLeg ∧ outcomeConflicts package st) ∧
        db' = db.updatePackageStatus package st actor := by
  unfold setStopPackageStatus
  constructor
  · intro h
    obtain ⟨⟨stop, d⟩, hctx, h⟩ := bind_eq_ok.mp h
    obtain ⟨⟨⟩, hnotes, h⟩ := bind_eq_ok.mp h
    obtain ⟨package, hpackage, h⟩ := bind_eq_ok.mp h
    obtain ⟨⟨⟩, hstop, h⟩ := bind_eq_ok.mp h
    obtain ⟨⟨⟩, hflow, h⟩ := bind_eq_ok.mp h
    obtain ⟨st, hst, h⟩ := bind_eq_ok.mp h
    obtain ⟨⟨⟩, hlock, h⟩ := bind_eq_ok.mp h
    obtain ⟨hread, hmem⟩ := getPackageOr404_eq_ok.mp hpackage
    exact ⟨stop, d, package, st, hctx, hnotes, hread, hmem,
      not_not.mp (raiseIf_eq_ok.mp hstop), raiseIf_eq_ok.mp hflow, hst, raiseIf_eq_ok.mp hlock,
      (pure_eq_ok.mp h).symm⟩
  · rintro ⟨stop, d, package, st, hctx, hnotes, hread, hmem, hstop, hflow, hst, hlock, rfl⟩
    refine bind_eq_ok.mpr ⟨(stop, d), hctx, bind_eq_ok.mpr ⟨⟨⟩, hnotes, ?_⟩⟩
    refine bind_eq_ok.mpr ⟨package, getPackageOr404_eq_ok.mpr ⟨hread, hmem⟩, ?_⟩
    refine bind_eq_ok.mpr ⟨⟨⟩, raiseIf_eq_ok.mpr (not_not.mpr hstop), ?_⟩
    refine bind_eq_ok.mpr ⟨⟨⟩, raiseIf_eq_ok.mpr hflow, bind_eq_ok.mpr ⟨st, hst, ?_⟩⟩
    exact bind_eq_ok.mpr ⟨⟨⟩, raiseIf_eq_ok.mpr hlock, rfl⟩

/-- The loop of a batch. -/
theorem packages_foldl_updatePackageStatus {st : PackageStatus}
    (h : ∀ p ∈ loaded, p ∈ db.packages.rows) :
    (loaded.foldl (fun db p => db.updatePackageStatus p st actor) db).packages
      = recorded db.packages (loaded.map (·.id)) st :=
  packages_foldl (fun _ _ hp => packages_updatePackageStatus hp) fun p hp => loaded_of_mem (h p hp)

/-- What was loaded for a delivery stop belongs to it. -/
theorem listForDeliveryStopByPackageIds_ok {texts : List String} {packages : List PackageRow}
    (h : listForDeliveryStopByPackageIds env db deliveryStopId texts = .ok packages) :
    ∀ p ∈ packages, p ∈ db.packages.rows ∧ p.deliveryStopId = some deliveryStopId := by
  obtain ⟨keys, -, h⟩ := bind_eq_ok.mp h
  obtain rfl := pure_eq_ok.mp h
  intro p hp
  have hstop := List.mem_of_mem_filter hp
  simpa only [ExecutionDb.listForDeliveryStop, List.mem_filter, decide_eq_true_eq] using hstop

/-- A batch of return outcomes that was accepted. -/
theorem setReturnStopPackagesStatusBatch_ok {packageIds : List String} {status : String}
    (h : setReturnStopPackagesStatusBatch env db path packageIds status actor = .ok db') :
    ∃ stop deliveryStopId st ordered,
      resolveExecutionContext db path = .ok (stop, deliveryStopId) ∧
      validateNotesAckGate env db path = .ok () ∧ stop.stopFlowType = .returnLeg ∧
      distinctPackageIds packageIds ≠ [] ∧
      packageStatusFromDriverPatchRequest env .returnLeg status = .ok st ∧
      List.Forall₂ (fun text p => p ∈ db.packages.rows ∧
          p.deliveryStopId = some deliveryStopId ∧ env.uuid.write p.id = text)
        (distinctPackageIds packageIds) ordered ∧
      (∀ p ∈ ordered, ¬ outcomeConflicts p st) ∧
      db' = ordered.foldl (fun db p => db.updatePackageStatus p st actor) db := by
  obtain ⟨⟨stop, d⟩, hctx, h⟩ := bind_eq_ok.mp h
  obtain ⟨⟨⟩, hnotes, h⟩ := bind_eq_ok.mp h
  obtain ⟨hflow, h⟩ := raiseIf_bind_eq_ok.mp h
  obtain ⟨hne, h⟩ := raiseIf_bind_eq_ok.mp h
  replace h := ok_of_check h
  obtain ⟨st, hst, h⟩ := bind_eq_ok.mp h
  obtain ⟨packages, hpackages, h⟩ := bind_eq_ok.mp h
  replace h := ok_of_check h
  obtain ⟨ordered, hordered, h⟩ := bind_eq_ok.mp h
  obtain ⟨⟨⟩, hlock, h⟩ := bind_eq_ok.mp h
  have hreturn : stop.stopFlowType = .returnLeg := not_not.mp hflow
  rw [hreturn] at hst
  refine ⟨stop, d, st, ordered, hctx, hnotes, hreturn, hne, hst, ?_, ?_,
    (pure_eq_ok.mp h).symm⟩
  · refine (mapEach_eq_ok.mp hordered).imp fun text p hp => ?_
    have hfound := orRaise_eq_ok.mp hp
    obtain ⟨hmem, hstop⟩ :=
      listForDeliveryStopByPackageIds_ok hpackages p (List.mem_of_find?_eq_some hfound)
    exact ⟨hmem, hstop, by simpa using List.find?_some hfound⟩
  · exact fun p hp => raiseIf_eq_ok.mp (checkEach_eq_ok.mp hlock p hp)

/-- A package that was reported missing. -/
theorem reportMissingPackage_ok {packageId reasonCode : String} {details : Option String}
    (h : reportMissingPackage env db path packageId reasonCode details actor = .ok db') :
    PackagesOnly db db' ∧ ∃ stop deliveryStopId package,
      resolveExecutionContext db path = .ok (stop, deliveryStopId) ∧
      validateNotesAckGate env db path = .ok () ∧
      env.uuid.read packageId = some package.id ∧ package ∈ db.packages.rows ∧
      package.deliveryStopId = some deliveryStopId ∧
      db'.packages = recorded db.packages [package.id] .missing := by
  obtain ⟨⟨stop, d⟩, hctx, h⟩ := bind_eq_ok.mp h
  obtain ⟨package, hpackage, h⟩ := bind_eq_ok.mp h
  obtain ⟨hstop, h⟩ := raiseIf_bind_eq_ok.mp h
  obtain ⟨⟨⟩, hnotes, h⟩ := bind_eq_ok.mp h
  obtain rfl := pure_eq_ok.mp h
  obtain ⟨hread, hmem⟩ := getPackageOr404_eq_ok.mp hpackage
  have hframe := packagesOnly_updatePackageStatus db package .missing actor
  refine ⟨⟨hframe.1, hframe.2, hframe.3, hframe.4, hframe.5, hframe.6, hframe.7, hframe.8,
    hframe.9⟩, stop, d, package, hctx, hnotes, hread, hmem,
    not_not.mp hstop, ?_⟩
  exact packages_updatePackageStatus (loaded_of_mem hmem)

end Packages

/-! ### Proof of delivery -/

section Pods

variable {env : DriverEnv} {db db' : ExecutionDb} {path : StopPath}

/-- The row is there after `get_or_create_stop_pod`, with what it held. -/
theorem find?_getOrCreateStopPod (deliveryStopId : Id) :
    (db.getOrCreateStopPod deliveryStopId).pods.find? deliveryStopId
      = some (db.stopPod deliveryStopId) := by
  unfold ExecutionDb.getOrCreateStopPod ExecutionDb.stopPod
  cases hfound : db.pods.find? deliveryStopId with
  | none =>
      have hnot := Table.find?_eq_none_iff.mp hfound
      rw [Table.find?_insert hnot, if_pos rfl]
      rfl
  | some pod =>
      obtain ⟨hmem, hkey⟩ := Table.find?_eq_some_iff.mp hfound
      have htaken : deliveryStopId ∈ db.pods.rows.map StopPod.deliveryStopId :=
        List.mem_map.mpr ⟨pod, hmem, hkey⟩
      rw [Table.insert, dif_pos htaken, hfound]
      rfl

/-- Creating the row changes no proof of delivery. -/
@[simp] theorem stopPod_getOrCreateStopPod (deliveryStopId e : Id) :
    (db.getOrCreateStopPod deliveryStopId).stopPod e = db.stopPod e := by
  by_cases he : e = deliveryStopId
  · subst he
    rw [ExecutionDb.stopPod, find?_getOrCreateStopPod]
    rfl
  · unfold ExecutionDb.stopPod ExecutionDb.getOrCreateStopPod
    by_cases htaken : deliveryStopId ∈ db.pods.rows.map StopPod.deliveryStopId
    · rw [Table.insert, dif_pos htaken]
    · rw [Table.find?_insert htaken, if_neg (Ne.symm he)]

theorem stopPod_modifyStopPod {f : StopPod → StopPod}
    {hf : ∀ pod, (f pod).deliveryStopId = pod.deliveryStopId} {pod : StopPod}
    (hfound : db.pods.find? deliveryStopId = some pod) (e : Id) :
    (db.modifyStopPod deliveryStopId f hf).stopPod e
      = if e = deliveryStopId then f pod else db.stopPod e := by
  unfold ExecutionDb.stopPod ExecutionDb.modifyStopPod
  rw [Table.find?_modify]
  split_ifs with he
  · rw [he, hfound]
    rfl
  · rfl

theorem listPodPhotos_insert {photo : StopPodPhoto}
    (hfresh : photo.id ∉ db.podPhotos.rows.map StopPodPhoto.id) (e : Id) :
    ({ db with podPhotos := db.podPhotos.insert photo }.listPodPhotos e).length
      = (db.listPodPhotos e).length + if photo.deliveryStopId = e then 1 else 0 := by
  unfold ExecutionDb.listPodPhotos
  rw [Table.rows_insert_of_notMem hfresh, List.filter_append, List.length_append]
  congr 1
  by_cases he : photo.deliveryStopId = e <;> simp [he]

/-- One photo more on the delivery stop. -/
theorem createPodPhoto_ok {driverId : Id} {imageKey : String} {sortOrder : ℕ}
    (h : db.createPodPhoto deliveryStopId imageKey sortOrder driverId = .ok db') :
    PodOnly db db' ∧ db'.pods = db.pods ∧ ∀ e, (db'.listPodPhotos e).length
      = (db.listPodPhotos e).length + if deliveryStopId = e then 1 else 0 := by
  replace h := ok_of_check h
  obtain rfl := pure_eq_ok.mp h
  exact ⟨⟨rfl, rfl, rfl⟩, rfl, listPodPhotos_insert (Table.fresh_notMem _)⟩

/-- The loop adds one photo for each file. -/
theorem uploadPhotos_ok {driverId : Id} {uploads : List UploadFile} {next : ℕ}
    (h : uploadPhotos env deliveryStopId driverId next uploads db = .ok db') :
    PodOnly db db' ∧ db'.pods = db.pods ∧ ∀ e, (db'.listPodPhotos e).length
      = (db.listPodPhotos e).length + if deliveryStopId = e then uploads.length else 0 := by
  induction uploads generalizing db next with
  | nil =>
      obtain rfl := Except.ok.inj h
      exact ⟨⟨rfl, rfl, rfl⟩, rfl, fun e => by simp⟩
  | cons upload uploads ih =>
      replace h := ok_of_check h
      replace h := ok_of_check h
      obtain ⟨imageId, -, h⟩ := bind_eq_ok.mp h
      obtain ⟨db₁, hphoto, h⟩ := bind_eq_ok.mp h
      obtain ⟨hframe₁, hpods₁, hcount₁⟩ := createPodPhoto_ok hphoto
      obtain ⟨hframe, hpods, hcount⟩ := ih h
      refine ⟨⟨hframe.1.trans hframe₁.1, hframe.2.trans hframe₁.2, hframe.3.trans hframe₁.3⟩,
        hpods.trans hpods₁, fun e => ?_⟩
      rw [hcount, hcount₁, List.length_cons]
      split_ifs <;> omega

/-- What the requests about photos do: at the delivery stop of the request the number of
photos becomes `count`, and no signature is touched. -/
structure PhotosCounted (db db' : ExecutionDb) (deliveryStopId : Id) (count : ℕ) : Prop where
  frame : PodOnly db db'
  photos : ∀ e, (db'.listPodPhotos e).length
    = if e = deliveryStopId then count else (db.listPodPhotos e).length
  signature : ∀ e, (db'.stopPod e).signatureImageKey = (db.stopPod e).signatureImageKey ∧
    (db'.stopPod e).signatureRequiredSnapshot = (db.stopPod e).signatureRequiredSnapshot

/-- The rows after the number of photos of one delivery stop is written down. -/
theorem stopPod_noted {db₁ : ExecutionDb}
    (hpods : db₁.pods = (db.getOrCreateStopPod deliveryStopId).pods) (noted : ℕ) (e : Id) :
    (db₁.modifyStopPod deliveryStopId (fun pod => { pod with photosCount := noted })
        fun _ => rfl).stopPod e
      = if e = deliveryStopId then { db.stopPod deliveryStopId with photosCount := noted }
        else db.stopPod e := by
  have hsame : db₁.stopPod e = db.stopPod e := by
    rw [ExecutionDb.stopPod, hpods]
    exact stopPod_getOrCreateStopPod deliveryStopId e
  have hfound : db₁.pods.find? deliveryStopId = some (db.stopPod deliveryStopId) := by
    rw [hpods]
    exact find?_getOrCreateStopPod deliveryStopId
  rw [stopPod_modifyStopPod hfound, hsame]

/-- The last step of each of them: the number of photos is written down. -/
theorem photosCounted_of_noted {db₁ : ExecutionDb} {count noted : ℕ} (hframe : PodOnly db db₁)
    (hpods : db₁.pods = (db.getOrCreateStopPod deliveryStopId).pods)
    (hcount : ∀ e, (db₁.listPodPhotos e).length
      = if e = deliveryStopId then count else (db.listPodPhotos e).length) :
    PhotosCounted db (db₁.modifyStopPod deliveryStopId
      (fun pod => { pod with photosCount := noted }) fun _ => rfl) deliveryStopId count where
  frame := ⟨hframe.1, hframe.2, hframe.3⟩
  photos := hcount
  signature := by
    intro e
    rw [stopPod_noted hpods]
    split_ifs with he
    · rw [he]
      exact ⟨rfl, rfl⟩
    · exact ⟨rfl, rfl⟩

theorem createStopPodUploadUrl_ok {uploads : List UploadFile}
    (h : createStopPodUploadUrl env db path uploads = .ok db') :
    ∃ stop deliveryStopId, resolveExecutionContext db path = .ok (stop, deliveryStopId) ∧
      uploads ≠ [] ∧ (db.listPodPhotos deliveryStopId).length + uploads.length ≤ maxPodPhotos ∧
      PhotosCounted db db' deliveryStopId
        ((db.listPodPhotos deliveryStopId).length + uploads.length) := by
  obtain ⟨⟨stop, d⟩, hctx, h⟩ := bind_eq_ok.mp h
  obtain ⟨hne, h⟩ := raiseIf_bind_eq_ok.mp h
  replace h := ok_of_check h
  obtain ⟨hmax, h⟩ := raiseIf_bind_eq_ok.mp h
  obtain ⟨db₁, hloop, h⟩ := bind_eq_ok.mp h
  obtain rfl := pure_eq_ok.mp h
  obtain ⟨hframe, hpods, hcount⟩ := uploadPhotos_ok hloop
  refine ⟨stop, d, hctx, hne, not_lt.mp hmax, ?_⟩
  refine photosCounted_of_noted ⟨hframe.1, hframe.2, hframe.3⟩ hpods fun e => ?_
  rw [hcount]
  by_cases he : e = d
  · rw [if_pos he.symm, if_pos he, he]
    rfl
  · rw [if_neg (Ne.symm he), if_neg he]
    rfl

theorem confirmStopPodPhoto_ok {imageKey : String}
    (h : confirmStopPodPhoto db path imageKey = .ok db') :
    ∃ stop deliveryStopId count,
      resolveExecutionContext db path = .ok (stop, deliveryStopId) ∧
      (db.listPodPhotos deliveryStopId).length ≤ count ∧ count ≤ maxPodPhotos ∧
      PhotosCounted db db' deliveryStopId count := by
  obtain ⟨⟨stop, d⟩, hctx, h⟩ := bind_eq_ok.mp h
  obtain ⟨hmax, h⟩ := raiseIf_bind_eq_ok.mp h
  have hlt : (db.listPodPhotos d).length < maxPodPhotos := not_le.mp hmax
  split_ifs at h
  · obtain rfl := pure_eq_ok.mp h
    refine ⟨stop, d, _, hctx, le_rfl, hlt.le, ⟨rfl, rfl, rfl⟩, fun e => ?_, fun e => ?_⟩
    · split_ifs with he
      · rw [he]
        rfl
      · rfl
    · rw [stopPod_getOrCreateStopPod]
      exact ⟨rfl, rfl⟩
  · obtain ⟨db₁, hphoto, h⟩ := bind_eq_ok.mp h
    obtain rfl := pure_eq_ok.mp h
    obtain ⟨hframe, hpods, hcount⟩ := createPodPhoto_ok hphoto
    refine ⟨stop, d, (db.listPodPhotos d).length + 1, hctx, Nat.le_succ _, hlt,
      photosCounted_of_noted ⟨hframe.1, hframe.2, hframe.3⟩ hpods fun e => ?_⟩
    rw [hcount]
    by_cases he : e = d
    · rw [if_pos he.symm, if_pos he, he]
      rfl
    · rw [if_neg (Ne.symm he), if_neg he]
      rfl

/-- A photo that is deleted goes from the list of its delivery stop, and from no other. -/
theorem listPodPhotos_delete {photo : StopPodPhoto}
    (hdelete : db'.podPhotos = db.podPhotos.deleteWhere fun p => p.id = photo.id)
    (hmem : photo ∈ db.listPodPhotos deliveryStopId) (e : Id) :
    db'.listPodPhotos e
      = if e = deliveryStopId then (db.listPodPhotos e).erase photo else db.listPodPhotos e := by
  obtain ⟨hrow, hstop⟩ := List.mem_filter.mp hmem
  have hstop : photo.deliveryStopId = deliveryStopId := of_decide_eq_true hstop
  have hid : ∀ p ∈ db.listPodPhotos e, p.id = photo.id ↔ p = photo := fun p hp =>
    ⟨db.podPhotos.eq_of_key (List.mem_of_mem_filter hp) hrow, congrArg _⟩
  have hlist : db'.listPodPhotos e
      = (db.listPodPhotos e).filter fun p => ¬ p.id = photo.id := by
    simp only [ExecutionDb.listPodPhotos, hdelete, Table.deleteWhere, List.filter_filter]
    exact List.filter_congr fun p _ => Bool.and_comm _ _
  rw [hlist]
  split_ifs with he
  · -- Keys are unique, so exactly the one photo goes.
    have hnodup : (db.listPodPhotos e).Nodup :=
      (List.Nodup.of_map _ db.podPhotos.nodup).filter _
    rw [hnodup.erase_eq_filter]
    refine List.filter_congr fun p hp => ?_
    rw [Bool.eq_iff_iff, decide_eq_true_eq, bne_iff_ne, hid p hp]
  · refine List.filter_eq_self.mpr fun p hp => decide_eq_true fun heq => he ?_
    have hother : p.deliveryStopId = e := of_decide_eq_true (List.mem_filter.mp hp).2
    rw [← hother, (hid p hp).mp heq, hstop]

/-- One photo less on a delivery stop. -/
theorem length_listPodPhotos_delete {photoId : Id}
    (hdelete : db'.podPhotos = db.podPhotos.deleteWhere fun photo => photo.id = photoId)
    (hphoto : ∃ photo ∈ db.listPodPhotos deliveryStopId, photo.id = photoId) (e : Id) :
    (db'.listPodPhotos e).length
      = if e = deliveryStopId then (db.listPodPhotos deliveryStopId).length - 1
        else (db.listPodPhotos e).length := by
  obtain ⟨photo, hmem, rfl⟩ := hphoto
  rw [listPodPhotos_delete hdelete hmem]
  split_ifs with he
  · rw [he, List.length_erase_of_mem hmem]
  · rfl

theorem deleteStopPodPhoto_ok {photoId : Id} (h : deleteStopPodPhoto db path photoId = .ok db') :
    ∃ stop deliveryStopId, resolveExecutionContext db path = .ok (stop, deliveryStopId) ∧
      db.listPodPhotos deliveryStopId ≠ [] ∧
      PhotosCounted db db' deliveryStopId ((db.listPodPhotos deliveryStopId).length - 1) := by
  obtain ⟨⟨stop, d⟩, hctx, h⟩ := bind_eq_ok.mp h
  obtain ⟨hfound, h⟩ := raiseIf_bind_eq_ok.mp h
  obtain rfl := pure_eq_ok.mp h
  have hphoto : ∃ photo ∈ db.listPodPhotos d, photo.id = photoId := by
    simpa using hfound
  obtain ⟨photo, hmem, -⟩ := id hphoto
  refine ⟨stop, d, hctx, List.ne_nil_of_mem hmem, ?_⟩
  exact photosCounted_of_noted ⟨rfl, rfl, rfl⟩ rfl (length_listPodPhotos_delete rfl hphoto)

theorem saveStopSignature_ok {key : String} {required : Option Bool}
    (h : saveStopSignature db path key required = .ok db') :
    ∃ stop deliveryStopId, resolveExecutionContext db path = .ok (stop, deliveryStopId) ∧
      PodOnly db db' ∧ db'.podPhotos = db.podPhotos ∧
      ∀ e, db'.stopPod e = if e = deliveryStopId then { db.stopPod e with
        signatureImageKey := some key
        signatureRequiredSnapshot := required.getD (db.stopPod e).signatureRequiredSnapshot }
        else db.stopPod e := by
  obtain ⟨⟨stop, d⟩, hctx, h⟩ := bind_eq_ok.mp h
  obtain rfl := pure_eq_ok.mp h
  refine ⟨stop, d, hctx, ⟨rfl, rfl, rfl⟩, rfl, fun e => ?_⟩
  rw [stopPod_modifyStopPod (find?_getOrCreateStopPod d), stopPod_getOrCreateStopPod]
  split_ifs with he
  · rw [he]
  · rfl

end Pods

/-! ### Completing a stop -/

section Complete

variable {env : DriverEnv} {db db' : ExecutionDb} {path : StopPath}

/-- The three gates of a stop beside its notes. -/
def GatesOk (db : ExecutionDb) (flow : RouteStopFlowType) (deliveryStopId : Id) : Prop :=
  (stopGates db flow deliveryStopId).packagesOk = true ∧
    (stopGates db flow deliveryStopId).podOk = true ∧
    (stopGates db flow deliveryStopId).signatureOk = true

/-- Creating the row of the proof of delivery is not seen by the gates. -/
theorem stopGates_getOrCreateStopPod (db : ExecutionDb) (flow : RouteStopFlowType) (d e : Id) :
    stopGates (db.getOrCreateStopPod d) flow e = stopGates db flow e := by
  unfold stopGates
  rw [stopPod_getOrCreateStopPod]
  rfl

/-- **A stop that was completed passed its gates.** Nothing that they are computed from was
written by completing it. -/
theorem completeStopDelivery_ok {notes : Option String} {now : Instant}
    (h : completeStopDelivery env db path notes now = .ok db') :
    ∃ stop deliveryStopId, resolveExecutionContext db path = .ok (stop, deliveryStopId) ∧
      GatesOk db stop.stopFlowType deliveryStopId ∧
      db'.routeStops = db.routeStops.modify path.stopId (RouteStop.complete now notes)
        (RouteStop.id_complete now notes) ∧
      db'.deliveryStops = db.deliveryStops ∧ db'.packages = db.packages ∧
      db'.podPhotos = db.podPhotos ∧
      ∀ e, db'.stopPod e = if e = deliveryStopId then
        { db.stopPod e with completedAt := some now } else db.stopPod e := by
  obtain ⟨⟨stop, d⟩, hctx, h⟩ := bind_eq_ok.mp h
  obtain ⟨⟨db₁, readiness⟩, hready, h⟩ := bind_eq_ok.mp h
  replace h := ok_of_check h
  obtain ⟨hpackages, h⟩ := raiseIf_bind_eq_ok.mp h
  obtain ⟨⟨⟩, hpod, h⟩ := bind_eq_ok.mp h
  obtain ⟨hsignature, h⟩ := raiseIf_bind_eq_ok.mp h
  obtain rfl := pure_eq_ok.mp h
  -- The readiness was built for the same stop.
  obtain ⟨⟨stop', d'⟩, hctx', hready⟩ := bind_eq_ok.mp hready
  obtain ⟨rfl, rfl⟩ := Prod.mk.inj (Except.ok.inj (hctx'.symm.trans hctx))
  obtain ⟨payload, -, hready⟩ := bind_eq_ok.mp hready
  obtain ⟨rfl, rfl⟩ := Prod.mk.inj (pure_eq_ok.mp hready)
  have hgates := stopGates_getOrCreateStopPod db stop'.stopFlowType d' d'
  refine ⟨stop', d', hctx, ⟨?_, ?_, ?_⟩, rfl, rfl, rfl, rfl, fun e => ?_⟩
  · rw [← hgates]
    exact Bool.not_eq_false _ ▸ hpackages
  · rw [← hgates]
    exact Bool.not_eq_false _ ▸ raiseIf_eq_ok.mp hpod
  · rw [← hgates]
    exact Bool.not_eq_false _ ▸ hsignature
  · let noted := (db.getOrCreateStopPod d').modifyStopPod d'
      (fun pod => { pod with completedAt := some now }) fun _ => rfl
    have hpod : noted.stopPod e = if e = d' then
        { db.stopPod e with completedAt := some now } else db.stopPod e := by
      rw [stopPod_modifyStopPod (find?_getOrCreateStopPod d'), stopPod_getOrCreateStopPod]
      split_ifs with he
      · rw [he]
      · rfl
    exact hpod

end Complete

/-! ### Requests -/

section Requests

variable {db db' : ExecutionDb} {request : StopRequest}

/-- A request that does not raise leads to the next state. -/
theorem StopRequest.exec_eq_step (h : (request.exec db).isOk = true) :
    request.exec db = .ok (request.step db) := by
  obtain ⟨db', hok⟩ := exists_eq_ok h
  rw [StopRequest.step, hok]
  rfl

/-- Only completing a stop writes to route stops. -/
theorem routeStops_exec (h : request.exec db = .ok db') :
    db'.routeStops = db.routeStops ∨ ∃ now notes, db'.routeStops
      = db.routeStops.modify request.path.stopId (RouteStop.complete now notes)
        (RouteStop.id_complete now notes) := by
  obtain ⟨env, path, actor, now, op⟩ := request
  cases op with
  | acknowledgeStopNotes notesHash =>
      obtain ⟨acks, rfl⟩ := acknowledgeStopNotes_ok h
      exact .inl rfl
  | scanStopPackage scanValue => exact .inl (scanStopPackage_ok h).1.routeStops
  | setStopPackageStatus packageId status =>
      obtain ⟨stop, d, package, st, -, -, -, -, -, -, -, -, rfl⟩ :=
        setStopPackageStatus_eq_ok.mp h
      exact .inl (packagesOnly_updatePackageStatus _ _ _ _).routeStops
  | setReturnStopPackagesStatusBatch packageIds status =>
      obtain ⟨stop, d, st, ordered, -, -, -, -, -, -, -, rfl⟩ :=
        setReturnStopPackagesStatusBatch_ok h
      exact .inl (PackagesOnly.foldl
        (fun db p => packagesOnly_updatePackageStatus db p st actor) ordered db).routeStops
  | reportMissingPackage packageId reasonCode details =>
      exact .inl (reportMissingPackage_ok h).1.routeStops
  | createStopPodUploadUrl uploads =>
      obtain ⟨stop, d, -, -, -, hcount⟩ := createStopPodUploadUrl_ok h
      exact .inl hcount.frame.routeStops
  | confirmStopPodPhoto imageKey =>
      obtain ⟨stop, d, count, -, -, -, hcount⟩ := confirmStopPodPhoto_ok h
      exact .inl hcount.frame.routeStops
  | deleteStopPodPhoto photoId =>
      obtain ⟨stop, d, -, -, hcount⟩ := deleteStopPodPhoto_ok h
      exact .inl hcount.frame.routeStops
  | saveStopSignature key required =>
      obtain ⟨stop, d, -, hframe, -⟩ := saveStopSignature_ok h
      exact .inl hframe.routeStops
  | completeStopDelivery notes =>
      obtain ⟨stop, d, -, -, hstops, -⟩ := completeStopDelivery_ok h
      exact .inr ⟨now, notes, hstops⟩

/-- The same leg of the same delivery stop, completed if it was completed. -/
structure SameLeg (stop stop' : RouteStop) : Prop where
  deliveryStopId : stop'.deliveryStopId = stop.deliveryStopId
  stopFlowType : stop'.stopFlowType = stop.stopFlowType
  completed : stop.status = .completed → stop'.status = .completed

theorem SameLeg.refl (stop : RouteStop) : SameLeg stop stop := ⟨rfl, rfl, fun h => h⟩

theorem SameLeg.trans {stop₁ stop₂ stop₃ : RouteStop} (h : SameLeg stop₁ stop₂)
    (h' : SameLeg stop₂ stop₃) : SameLeg stop₁ stop₃ :=
  ⟨h'.1.trans h.1, h'.2.trans h.2, fun hdone => h'.3 (h.3 hdone)⟩

/-- **A route stop stays what it is.** -/
theorem routeStop_step (request : StopRequest) {stopId : Id}
    (hstop : db.routeStops.find? stopId = some stop) :
    ∃ stop', (request.step db).routeStops.find? stopId = some stop' ∧ SameLeg stop stop' := by
  unfold StopRequest.step
  cases hexec : request.exec db with
  | error e => exact ⟨stop, hstop, .refl stop⟩
  | ok db' =>
      rw [settle_ok]
      rcases routeStops_exec hexec with hsame | ⟨now, notes, hstops⟩
      · exact ⟨stop, hsame ▸ hstop, .refl stop⟩
      · rw [hstops, Table.find?_modify, hstop]
        split_ifs
        · exact ⟨_, rfl, rfl, rfl, fun _ => rfl⟩
        · exact ⟨stop, rfl, .refl stop⟩

theorem routeStop_run {stopId : Id} (hstop : db.routeStops.find? stopId = some stop)
    (requests : List StopRequest) :
    ∃ stop', (Runs.run StopRequest.step db requests).routeStops.find? stopId = some stop' ∧
      SameLeg stop stop' := by
  refine Runs.run_invariant (I := fun db : ExecutionDb =>
    ∃ stop', db.routeStops.find? stopId = some stop' ∧ SameLeg stop stop') ?_ ?_ requests
  · rintro db request ⟨stop₁, hstop₁, hleg₁⟩
    obtain ⟨stop₂, hstop₂, hleg₂⟩ := routeStop_step request hstop₁
    exact ⟨stop₂, hstop₂, hleg₁.trans hleg₂⟩
  · exact ⟨stop, hstop, .refl stop⟩

end Requests

end SwCouriers
