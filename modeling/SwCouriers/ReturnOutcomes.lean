import SwCouriers.Lib.Grouping
import SwCouriers.StopEffects

/-!
# Return Outcomes are Final

On a return stop the driver records an outcome for each package, and the outcome is meant to
be final: `set_stop_package_status` and its batch refuse to replace it by another one, and a
scan refuses a package that has one. `report_missing_package` asks nothing of the kind and
makes a package `MISSING` whatever was recorded.

The batch is the same as single calls. It looks at every package before it writes to any, so
it writes all of them or none.

## Main results

* `keepsOutcomes_step_iff`: exactly which requests at a return stop keep the outcomes.
* `setEach_of_batch`: an accepted batch does what single calls do, in any order.
* `return_outcomes_final`: both, along every run.
-/

namespace SwCouriers

open Checked

/-! ### One request -/

/-- Every outcome recorded before is still there. -/
def KeepsOutcomes (db db' : ExecutionDb) : Prop :=
  ∀ p ∈ db.packages.rows, p.status ∈ packageStopReturnHubCompleteStatuses →
    db'.packages.find? p.id = some p

theorem keepsOutcomes_of_packages_eq {db db' : ExecutionDb} (h : db'.packages = db.packages) :
    KeepsOutcomes db db' := by
  intro p hp _
  rw [h]
  exact Table.find?_eq_some_iff.mpr ⟨hp, rfl⟩

variable {st : PackageStatus} {actor : Option Id}

/-- A status recorded on packages without another outcome. -/
theorem keepsOutcomes_recorded {db db' : ExecutionDb} {ids : List Id}
    (h : db'.packages = recorded db.packages ids st)
    (hlock : ∀ p ∈ db.packages.rows, p.id ∈ ids → ¬ outcomeConflicts p st) :
    KeepsOutcomes db db' := by
  intro p hp hfinal
  rw [h, find?_recorded, Table.find?_eq_some_iff.mpr ⟨hp, rfl⟩, Option.map_some,
    PackageRow.record_self fun hid => ?_]
  by_contra hne
  exact hlock p hp hid ⟨hfinal, hne⟩

/-- The request does not report a package missing that has an outcome. The other hypotheses
say that the report passes its checks. -/
def StopRequest.SparesOutcomes (db : ExecutionDb) (request : StopRequest) : Prop :=
  match request.op with
  | .reportMissingPackage packageId _ _ => ∀ stop deliveryStopId package,
      resolveExecutionContext db request.path = .ok (stop, deliveryStopId) →
      validateNotesAckGate request.env db request.path = .ok () →
      request.env.uuid.read packageId = some package.id → package ∈ db.packages.rows →
      package.deliveryStopId = some deliveryStopId →
      package.status ∉ packageStopReturnHubCompleteStatuses
  | _ => True

section Step

variable {db db' : ExecutionDb} {request : StopRequest}

/-- A report that passes its checks makes the package `MISSING`, whatever it was. -/
theorem reportMissingPackage_of_checks {env : DriverEnv} {path : StopPath} {stop : RouteStop}
    {deliveryStopId : Id} {package : PackageRow} {packageId reasonCode : String}
    {details : Option String} (hctx : resolveExecutionContext db path = .ok (stop, deliveryStopId))
    (hnotes : validateNotesAckGate env db path = .ok ())
    (hread : env.uuid.read packageId = some package.id) (hmem : package ∈ db.packages.rows)
    (hstop : package.deliveryStopId = some deliveryStopId) :
    ∃ db', reportMissingPackage env db path packageId reasonCode details actor = .ok db' ∧
      db'.packages = recorded db.packages [package.id] .missing := by
  let updated := db.updatePackageStatus package .missing actor
  let report : PackageMissingReport := ⟨package.id, path.routeId, path.stopId, deliveryStopId,
    path.driverId, reasonCode, details⟩
  refine ⟨{ updated with missingReports := updated.missingReports ++ [report] },
    bind_eq_ok.mpr ⟨(stop, deliveryStopId), hctx, ?_⟩,
    packages_updatePackageStatus (loaded_of_mem hmem)⟩
  refine bind_eq_ok.mpr ⟨package, getPackageOr404_eq_ok.mpr ⟨hread, hmem⟩, ?_⟩
  refine bind_eq_ok.mpr ⟨⟨⟩, raiseIf_eq_ok.mpr (not_not.mpr hstop), ?_⟩
  exact bind_eq_ok.mpr ⟨⟨⟩, hnotes, rfl⟩

/-- A report keeps the outcomes exactly if the package had none. -/
theorem keepsOutcomes_missing_iff {package : PackageRow} (hmem : package ∈ db.packages.rows)
    (h : db'.packages = recorded db.packages [package.id] .missing) :
    KeepsOutcomes db db' ↔ package.status ∉ packageStopReturnHubCompleteStatuses := by
  constructor
  · intro hkeeps hfinal
    have hafter := hkeeps package hmem hfinal
    rw [h, find?_recorded, Table.find?_eq_some_iff.mpr ⟨hmem, rfl⟩, Option.map_some,
      PackageRow.record_of_mem List.mem_cons_self] at hafter
    have hstatus : PackageStatus.missing = package.status :=
      congrArg PackageRow.status (Option.some.inj hafter)
    rw [← hstatus] at hfinal
    exact absurd hfinal (by decide)
  · intro hopen
    refine keepsOutcomes_recorded h fun p hp hid hconflict => hopen ?_
    obtain rfl := Table.eq_of_key hp hmem (List.mem_singleton.mp hid)
    exact hconflict.1

/-- **One request at a return stop** keeps the recorded outcomes exactly if it does not report
a package missing that has one. -/
theorem keepsOutcomes_step_iff {stop : RouteStop}
    (hstop : db.routeStops.find? request.path.stopId = some stop)
    (hreturn : stop.stopFlowType = .returnLeg) :
    KeepsOutcomes db (request.step db) ↔ request.SparesOutcomes db := by
  have hstop_eq : ∀ {stop' d}, resolveExecutionContext db request.path = .ok (stop', d) →
      stop' = stop := fun hctx => Option.some.inj ((find?_of_context hctx).1.symm.trans hstop)
  unfold StopRequest.step
  cases hexec : request.exec db with
  | error e =>
      refine iff_of_true (keepsOutcomes_of_packages_eq rfl) ?_
      obtain ⟨env, path, actor, now, op⟩ := request
      cases op with
      | reportMissingPackage packageId reasonCode details =>
          intro stop' d package hctx hnotes hread hmem hdelivery
          obtain ⟨db', hok, -⟩ := reportMissingPackage_of_checks hctx hnotes hread hmem hdelivery
          exact absurd (hexec.symm.trans hok) nofun
      | _ => exact trivial
  | ok db' =>
      rw [settle_ok]
      obtain ⟨env, path, actor, now, op⟩ := request
      cases op with
      | reportMissingPackage packageId reasonCode details =>
          obtain ⟨-, stop', d, package, hctx, hnotes, hread, hmem, hdelivery, hafter⟩ :=
            reportMissingPackage_ok hexec
          rw [keepsOutcomes_missing_iff hmem hafter]
          constructor
          · intro hopen stop'' d'' package'' _ _ hread'' hmem'' _
            have hid := Option.some.inj (hread''.symm.trans hread)
            obtain rfl := Table.eq_of_key hmem'' hmem hid
            exact hopen
          · exact fun hspares => hspares stop' d package hctx hnotes hread hmem hdelivery
      | acknowledgeStopNotes notesHash =>
          obtain ⟨acks, rfl⟩ := acknowledgeStopNotes_ok hexec
          exact iff_of_true (keepsOutcomes_of_packages_eq rfl) trivial
      | scanStopPackage scanValue =>
          obtain ⟨-, stop', d, hctx, hsame | ⟨hpickup, -⟩⟩ := scanStopPackage_ok hexec
          · exact iff_of_true (keepsOutcomes_of_packages_eq hsame) trivial
          · rw [hstop_eq hctx, hreturn] at hpickup
            exact absurd hpickup nofun
      | setStopPackageStatus packageId status =>
          obtain ⟨stop', d, package, st, hctx, -, -, hmem, -, -, -, hlock, rfl⟩ :=
            setStopPackageStatus_eq_ok.mp hexec
          refine iff_of_true (keepsOutcomes_recorded
            (packages_updatePackageStatus (loaded_of_mem hmem))
            fun p hp hid hconflict => ?_) trivial
          obtain rfl :=
            Table.eq_of_key hp hmem (List.mem_singleton.mp hid)
          exact hlock ⟨hstop_eq hctx ▸ hreturn, hconflict⟩
      | setReturnStopPackagesStatusBatch packageIds status =>
          obtain ⟨stop', d, st, ordered, -, -, -, -, -, hordered, hlock, rfl⟩ :=
            setReturnStopPackagesStatusBatch_ok hexec
          have hrows : ∀ p ∈ ordered, p ∈ db.packages.rows := fun p hp =>
            (exists_of_forall₂_right hordered hp).elim fun _ h => h.2.1
          refine iff_of_true (keepsOutcomes_recorded
            (packages_foldl_updatePackageStatus hrows) fun p hp hid => ?_) trivial
          obtain ⟨q, hq, hqid⟩ := List.mem_map.mp hid
          obtain rfl := Table.eq_of_key (hrows q hq) hp hqid
          exact hlock q hq
      | createStopPodUploadUrl uploads =>
          obtain ⟨stop, d, -, -, -, hcount⟩ := createStopPodUploadUrl_ok hexec
          exact iff_of_true (keepsOutcomes_of_packages_eq hcount.frame.packages) trivial
      | confirmStopPodPhoto imageKey =>
          obtain ⟨stop, d, count, -, -, -, hcount⟩ := confirmStopPodPhoto_ok hexec
          exact iff_of_true (keepsOutcomes_of_packages_eq hcount.frame.packages) trivial
      | deleteStopPodPhoto photoId =>
          obtain ⟨stop, d, -, -, hcount⟩ := deleteStopPodPhoto_ok hexec
          exact iff_of_true (keepsOutcomes_of_packages_eq hcount.frame.packages) trivial
      | saveStopSignature key required =>
          obtain ⟨stop, d, -, hframe, -⟩ := saveStopSignature_ok hexec
          exact iff_of_true (keepsOutcomes_of_packages_eq hframe.packages) trivial
      | completeStopDelivery notes =>
          obtain ⟨stop, d, -, -, -, -, hpackages, -⟩ := completeStopDelivery_ok hexec
          exact iff_of_true (keepsOutcomes_of_packages_eq hpackages) trivial

end Step

/-! ### The batch -/

section Batch

variable {env : DriverEnv} {db db' : ExecutionDb} {path : StopPath}

/-- The path of a request is resolved without the packages. -/
theorem resolveExecutionContext_congr (hframe : PackagesOnly db db') :
    resolveExecutionContext db' path = resolveExecutionContext db path := by
  unfold resolveExecutionContext getRouteForDriverOr404 getRouteStop
  rw [hframe.routes, hframe.routeStops]

/-- The notes of a stop name its packages, and do not see their statuses. -/
theorem validNotePackageIds_congr {ids : List Id}
    (hpackages : db'.packages = recorded db.packages ids st) (d orderId : Id)
    (notes : List StopNote) :
    validNotePackageIds env db' d orderId notes = validNotePackageIds env db d orderId notes := by
  unfold validNotePackageIds listForDeliveryStopByPackageIds ExecutionDb.listForDeliveryStop
  rw [hpackages, rows_recorded]
  cases mapEach (fun text => orRaise (env.uuid.read text) (ServiceError.uncaught "DBAPIError"))
      (notes.flatMap (notePackageCandidates env)) with
  | error e => rfl
  | ok keys =>
      refine congrArg Except.ok ?_
      simp only [List.filter_map, List.map_map, Function.comp_def, PackageRow.id_record,
        PackageRow.deliveryStopId_record, PackageRow.orderId_record]

theorem validateNotesAckGate_congr {ids : List Id} (hframe : PackagesOnly db db')
    (hpackages : db'.packages = recorded db.packages ids st) :
    validateNotesAckGate env db' path = validateNotesAckGate env db path := by
  have himages : ∀ noteId, db'.imagesOf noteId = db.imagesOf noteId := fun noteId => by
    unfold ExecutionDb.imagesOf
    rw [hframe.stopNoteImages]
  have hpayload : getStopNotesPayload env db' path = getStopNotesPayload env db path := by
    unfold getStopNotesPayload notePayload ExecutionDb.notesOf
    simp only [resolveExecutionContext_congr hframe, validNotePackageIds_congr hpackages,
      himages, hframe.stopNotes, hframe.deliveryStops, hframe.acknowledgements]
  unfold validateNotesAckGate
  rw [hpayload]

/-- The transitions that a loop of status writes records. -/
def transitions (loaded : List PackageRow) (st : PackageStatus) (actor : Option Id) :
    List PackageEvent :=
  (loaded.filter fun p => p.status ≠ st).map fun p => ⟨p.id, p.status, st, actor⟩

/-- A loop of status writes, as one write. -/
theorem foldl_updatePackageStatus_eq {loaded : List PackageRow}
    (h : ∀ p ∈ loaded, p ∈ db.packages.rows) :
    loaded.foldl (fun db p => db.updatePackageStatus p st actor) db = { db with
      packages := recorded db.packages (loaded.map (·.id)) st
      packageEvents := db.packageEvents ++ transitions loaded st actor } := by
  have hloop : ∀ (loaded : List PackageRow) (db : ExecutionDb), ∃ packages,
      loaded.foldl (fun db p => db.updatePackageStatus p st actor) db = { db with
        packages := packages
        packageEvents := db.packageEvents ++ transitions loaded st actor } := by
    intro loaded
    induction loaded with
    | nil => exact fun db => ⟨db.packages, by simp [transitions]⟩
    | cons p loaded ih =>
        intro db
        obtain ⟨packages, hrest⟩ := ih (db.updatePackageStatus p st actor)
        refine ⟨packages, ?_⟩
        rw [List.foldl_cons, hrest]
        unfold ExecutionDb.updatePackageStatus transitions
        by_cases hst : p.status = st <;> simp [hst]
  obtain ⟨packages, heq⟩ := hloop loaded db
  have hpackages : (loaded.foldl (fun db p => db.updatePackageStatus p st actor) db).packages
      = recorded db.packages (loaded.map (·.id)) st := packages_foldl_updatePackageStatus h
  rw [heq] at hpackages ⊢
  rw [← hpackages]

/-- **Single calls** for packages that are open or have the outcome already are all accepted,
and do what one loop does. -/
theorem setEach_eq_ok {stop : RouteStop} {d : Id} {status : String}
    (hctx : resolveExecutionContext db path = .ok (stop, d))
    (hnotes : validateNotesAckGate env db path = .ok ()) (hreturn : stop.stopFlowType = .returnLeg)
    (hst : packageStatusFromDriverPatchRequest env .returnLeg status = .ok st) {texts : List String}
    {ordered : List PackageRow}
    (htexts : List.Forall₂ (fun text p => env.uuid.write p.id = text) texts ordered)
    (hrows : ∀ p ∈ ordered, p ∈ db.packages.rows ∧ p.deliveryStopId = some d)
    (hnodup : (ordered.map (·.id)).Nodup) (hlock : ∀ p ∈ ordered, ¬ outcomeConflicts p st) :
    texts.foldlM (fun db text => setStopPackageStatus env db path text status actor) db
      = .ok (ordered.foldl (fun db p => db.updatePackageStatus p st actor) db) := by
  induction htexts generalizing db with
  | nil => rfl
  | @cons text p texts ordered htext htexts ih =>
      obtain ⟨⟨hp, hdelivery⟩, hrows⟩ := List.forall_mem_cons.mp hrows
      obtain ⟨hnot, hnodup⟩ := List.nodup_cons.mp hnodup
      obtain ⟨hopen, hlock⟩ := List.forall_mem_cons.mp hlock
      have hread : env.uuid.read text = some p.id := by
        rw [← htext]
        exact env.uuid.read_write p.id
      have hflow : stop.stopFlowType ≠ .pickup := by
        rw [hreturn]
        exact nofun
      have hcall : setStopPackageStatus env db path text status actor
          = .ok (db.updatePackageStatus p st actor) :=
        setStopPackageStatus_eq_ok.mpr ⟨stop, d, p, st, hctx, hnotes, hread, hp, hdelivery, hflow,
          hreturn ▸ hst, fun h => hopen h.2, rfl⟩
      -- The call leaves the other packages, the path and the notes as they are.
      have hframe := packagesOnly_updatePackageStatus db p st actor
      have hafter : (db.updatePackageStatus p st actor).packages = recorded db.packages [p.id] st :=
        packages_updatePackageStatus (loaded_of_mem hp)
      rw [List.foldlM_cons, hcall, List.foldl_cons]
      refine ih ((resolveExecutionContext_congr hframe).trans hctx)
        ((validateNotesAckGate_congr hframe hafter).trans hnotes) (fun q hq => ?_) hnodup hlock
      refine ⟨?_, (hrows q hq).2⟩
      have hne : q.id ∉ [p.id] := fun hid =>
        hnot (List.mem_map.mpr ⟨q, hq, List.mem_singleton.mp hid⟩)
      rw [hafter, rows_recorded]
      exact List.mem_map.mpr ⟨q, (hrows q hq).1, PackageRow.record_of_notMem hne⟩

/-- **The batch is single calls.** An accepted batch does what `set_stop_package_status` does
for each of its distinct keys, one after the other, in any order. -/
theorem setEach_of_batch {packageIds : List String} {status : String}
    (h : setReturnStopPackagesStatusBatch env db path packageIds status actor = .ok db')
    {texts : List String} (hperm : texts.Perm (distinctPackageIds packageIds)) :
    ∃ events, texts.foldlM (fun db text => setStopPackageStatus env db path text status actor) db
      = .ok { db' with packageEvents := events } ∧ events.Perm db'.packageEvents := by
  obtain ⟨stop, d, st, ordered, hctx, hnotes, hreturn, -, hst, hordered, hlock, rfl⟩ :=
    setReturnStopPackagesStatusBatch_ok h
  obtain ⟨loaded, htexts, hloaded⟩ := List.perm_comp_forall₂ hperm hordered
  have hrows : ∀ p ∈ loaded, p ∈ db.packages.rows ∧ p.deliveryStopId = some d := by
    intro p hp
    obtain ⟨text, -, hmem, hdelivery, -⟩ := exists_of_forall₂_right htexts hp
    exact ⟨hmem, hdelivery⟩
  have hwritten : List.Forall₂ (fun text p => env.uuid.write p.id = text) texts loaded :=
    htexts.imp fun _ _ h => h.2.2
  have hnodup : (loaded.map (·.id)).Nodup := by
    have hkeys : List.Forall₂ (· = ·) ((loaded.map (·.id)).map env.uuid.write) texts := by
      rw [List.map_map]
      exact List.forall₂_map_left_iff.mpr hwritten.flip
    have hdistinct : texts.Nodup := hperm.nodup_iff.mpr (Grouping.nodup_eraseDups _)
    rw [List.forall₂_eq_eq_eq] at hkeys
    exact List.Nodup.of_map _ (hkeys ▸ hdistinct)
  have hlocked : ∀ p ∈ loaded, ¬ outcomeConflicts p st :=
    fun p hp => hlock p (hloaded.mem_iff.mp hp)
  have hsame : recorded db.packages (loaded.map (·.id)) st
      = recorded db.packages (ordered.map (·.id)) st :=
    recorded_congr fun id => (hloaded.map _).mem_iff
  rw [setEach_eq_ok hctx hnotes hreturn hst hwritten hrows hnodup hlocked,
    foldl_updatePackageStatus_eq fun p hp => (hrows p hp).1,
    foldl_updatePackageStatus_eq fun p hp => (hrows p (hloaded.mem_iff.mpr hp)).1, hsame]
  refine ⟨db.packageEvents ++ transitions loaded st actor, rfl, ?_⟩
  exact ((hloaded.filter _).map _).append_left _

end Batch

/-! ### Runs -/

theorem KeepsOutcomes.refl (db : ExecutionDb) : KeepsOutcomes db db :=
  keepsOutcomes_of_packages_eq rfl

theorem KeepsOutcomes.trans (db₁ db₂ db₃ : ExecutionDb) (h : KeepsOutcomes db₁ db₂)
    (h' : KeepsOutcomes db₂ db₃) : KeepsOutcomes db₁ db₃ := fun p hp hfinal =>
  h' p (Table.find?_eq_some_iff.mp (h p hp hfinal)).1 hfinal

/-- **Return outcomes are final.** Along every run of requests at a return stop, a recorded
outcome never changes again if and only if no report that passes its checks is about a package
with one. In every state a batch either raises, and changes nothing, or does what single calls
do for each of its distinct keys, in any order. -/
theorem return_outcomes_final {db : ExecutionDb} {stopId : Id} {stop : RouteStop}
    (hstop : db.routeStops.find? stopId = some stop) (hreturn : stop.stopFlowType = .returnLeg)
    (requests : List StopRequest) (hon : ∀ request ∈ requests, request.path.stopId = stopId) :
    ((∀ pre mid post, requests = pre ++ mid ++ post →
        KeepsOutcomes (Runs.run StopRequest.step db pre)
          (Runs.run StopRequest.step db (pre ++ mid))) ↔
      Runs.Along StopRequest.step (fun db request => request.SparesOutcomes db) db requests) ∧
    ∀ (env : DriverEnv) (db : ExecutionDb) (path : StopPath) (packageIds : List String)
      (status : String) (actor : Option Id),
      (∃ e, setReturnStopPackagesStatusBatch env db path packageIds status actor = .error e ∧
        settle db (setReturnStopPackagesStatusBatch env db path packageIds status actor) = db) ∨
      ∃ db', setReturnStopPackagesStatusBatch env db path packageIds status actor = .ok db' ∧
        ∀ texts : List String, texts.Perm (distinctPackageIds packageIds) → ∃ events,
          texts.foldlM (fun db text => setStopPackageStatus env db path text status actor) db
            = .ok { db' with packageEvents := events } ∧ events.Perm db'.packageEvents := by
  constructor
  · rw [Runs.forall_segment_iff_along KeepsOutcomes.refl KeepsOutcomes.trans, Runs.along_iff,
      Runs.along_iff]
    refine forall_congr' fun pre => forall_congr' fun request => forall_congr' fun post =>
      forall_congr' fun heq => ?_
    -- The stop of the request is still the return stop.
    obtain ⟨stop', hstop', hleg⟩ := routeStop_run hstop pre
    have hmem : request ∈ requests := by
      rw [heq]
      exact List.mem_append_right _ List.mem_cons_self
    rw [← hon request hmem] at hstop'
    exact keepsOutcomes_step_iff hstop' (hleg.stopFlowType.trans hreturn)
  · intro env db path packageIds status actor
    cases hbatch : setReturnStopPackagesStatusBatch env db path packageIds status actor with
    | error e => exact .inl ⟨e, rfl, rfl⟩
    | ok db' => exact .inr ⟨db', rfl, fun texts hperm => setEach_of_batch hbatch hperm⟩

/-! ### A parcel that was returned and then reported missing -/

/-- A return stop with three parcels, the first of which was handed back. -/
def returnDb : ExecutionDb :=
  oneStopDb .returnLeg ⟨[⟨1, "PKG-00000001", 1, some 1, .returned⟩,
    ⟨2, "PKG-00000002", 1, some 1, .returnInTransit⟩,
    ⟨3, "PKG-00000003", 1, some 1, .returnInTransit⟩], by decide⟩

/-- The first parcel is reported missing. -/
def missingAfterReturn : StopRequest :=
  stopRequest (.reportMissingPackage "00000000-0000-4000-8000-000000000001"
    "NOT_IN_MY_VEHICLE" none)

/-- The parcel that was handed back is `MISSING` now. -/
theorem returned_package_goes_missing :
    returnDb.routeStops.rows.map (·.stopFlowType) = [.returnLeg] ∧
      (returnDb.packages.find? 1).map (·.status) = some .returned ∧
      ((missingAfterReturn.step returnDb).packages.find? 1).map (·.status) = some .missing ∧
      ¬ KeepsOutcomes returnDb (missingAfterReturn.step returnDb) := by
  have hbefore : (returnDb.packages.find? 1).map (·.status) = some .returned := by decide
  have hafter : ((missingAfterReturn.step returnDb).packages.find? 1).map (·.status)
      = some .missing := by decide +kernel
  refine ⟨by decide, hbefore, hafter, fun hkeeps => ?_⟩
  obtain ⟨p, hfound, hstatus⟩ := Option.map_eq_some_iff.mp hbefore
  obtain ⟨hmem, hid⟩ := Table.find?_eq_some_iff.mp hfound
  have hkept := hkeeps p hmem (by rw [hstatus]; decide)
  rw [← hid, hkept, Option.map_some, hstatus] at hafter
  exact absurd hafter (by decide)

/-- A day at that stop: the second parcel is handed back, a second outcome for it is refused,
the batch repeats the two outcomes, and the third parcel is missing. -/
def returnDay : List StopRequest :=
  [stopRequest (.setStopPackageStatus "00000000-0000-4000-8000-000000000002"
      "RETURNED_TO_SENDER"),
    stopRequest (.setStopPackageStatus "00000000-0000-4000-8000-000000000002" "DISPOSED"),
    stopRequest (.setReturnStopPackagesStatusBatch [" 00000000-0000-4000-8000-000000000002", "",
      "00000000-0000-4000-8000-000000000001", "00000000-0000-4000-8000-000000000002"]
      "RETURNED_TO_SENDER"),
    stopRequest (.reportMissingPackage "00000000-0000-4000-8000-000000000003"
      "NOT_IN_MY_VEHICLE" none)]

/-- No outcome of that day changes. -/
theorem return_day_keeps_outcomes :
    KeepsOutcomes returnDb (Runs.run StopRequest.step returnDb returnDay) ∧
      (Runs.run StopRequest.step returnDb returnDay).packages.rows.map (·.status)
        = [.returned, .returned, .missing] := by
  refine ⟨?_, by decide +kernel⟩
  have hstop : returnDb.routeStops.find? 1
      = some ⟨1, 1, some 1, some 1, .arrived, .returnLeg, none, none⟩ := by decide
  refine (return_outcomes_final hstop rfl returnDay (by decide)).1.mpr
    ⟨trivial, trivial, trivial, ?_, trivial⟩ [] returnDay [] (List.append_nil _).symm
  -- The third parcel has no outcome when it is reported missing.
  intro stop d package _ _ hread hmem _
  have hopen : ∀ p ∈ (Runs.run StopRequest.step returnDb (returnDay.take 3)).packages.rows,
      plainEnv.uuid.read "00000000-0000-4000-8000-000000000003" = some p.id →
        p.status ∉ packageStopReturnHubCompleteStatuses := by decide +kernel
  exact hopen package hmem hread

end SwCouriers
