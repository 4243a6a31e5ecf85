import SwCouriers.StopEffects

/-!
# Proof of Completed Stops

`complete_stop_delivery` lets a stop through only when its packages are dealt with, its photos
are there and its signature is. Nothing after that looks at the status of the stop: packages,
photos and the signature belong to the delivery stop, and later requests go on writing them,
at this stop or at another leg of the same delivery stop.

So a completed stop stays proven exactly as long as those requests do not take the proof away:
by recording a status with which a package is pending on the leg of the stop, by deleting the
last photo that it needs, or by saving an empty signature where one is required.

## Main results

* `gatesOk_iff`: the gates of a stop in terms of its packages, photos and signature.
* `provenStop_step_iff`: exactly which requests keep a completed stop proven.
* `completed_stops_stay_proven`: the same along every run after the completion.
-/

namespace SwCouriers

open Checked

/-! ### The gates -/

/-- The stop needs photos. -/
def NeedsPhotos (db : ExecutionDb) (flow : RouteStopFlowType) (d : Id) : Prop :=
  flow = .delivery ∨ flow = .returnLeg ∧ ∃ p ∈ db.listForDeliveryStop d, p.status = .returned

/-- The delivery stop needs a signature. -/
def NeedsSignature (db : ExecutionDb) (d : Id) : Prop :=
  (db.stopPod d).signatureRequiredSnapshot = true ∨
    ∃ dstop, db.deliveryStops.find? d = some dstop ∧ dstop.signatureRequired = true

/-- **The gates of a stop.** -/
theorem gatesOk_iff {db : ExecutionDb} {flow : RouteStopFlowType} {d : Id} :
    GatesOk db flow d ↔
      (∀ p ∈ db.listForDeliveryStop d, isPending flow p.status = false) ∧
      (NeedsPhotos db flow d →
        1 ≤ (db.listPodPhotos d).length ∧ (db.listPodPhotos d).length ≤ maxPodPhotos) ∧
      (flow = .delivery → NeedsSignature db d →
        (db.stopPod d).signatureImageKey.getD "" ≠ "") := by
  have hpending : pendingPackageIdsForStopFlow flow (db.listForDeliveryStop d) = [] ↔
      ∀ p ∈ db.listForDeliveryStop d, isPending flow p.status = false := by
    rw [pendingPackageIdsForStopFlow, List.map_eq_nil_iff, List.filter_eq_nil_iff]
    simp only [Bool.not_eq_true]
  have hsignature : ((db.stopPod d).signatureRequiredSnapshot ||
      (db.deliveryStops.find? d).any (·.signatureRequired)) = true ↔ NeedsSignature db d := by
    rw [Bool.or_eq_true, Option.any_eq_true]
    rfl
  have hreturned : (db.listForDeliveryStop d).any (fun p =>
      decide (p.status ∈ packageReturnFlowRequiresStopPodStatuses)) = true ↔
        ∃ p ∈ db.listForDeliveryStop d, p.status = .returned := by
    simp [packageReturnFlowRequiresStopPodStatuses]
  unfold GatesOk stopGates NeedsPhotos
  cases flow with
  | pickup => simp [hpending]
  | delivery =>
      by_cases hneed : NeedsSignature db d
      · simp [hpending, hsignature.mpr hneed, hneed]
      · have hnone := Bool.eq_false_iff.mpr (mt hsignature.mp hneed)
        simp [hpending, hnone, hneed]
  | returnLeg =>
      by_cases hany : ∃ p ∈ db.listForDeliveryStop d, p.status = .returned
      · simp [hpending, hreturned.mpr hany, hany]
      · have hnone := Bool.eq_false_iff.mpr (mt hreturned.mp hany)
        simp [hpending, hnone, hany]

variable {ids : List Id} {st : PackageStatus} {e : Id}

section Gates

variable {db db' : ExecutionDb} {flow : RouteStopFlowType} {d : Id}

/-- The gates of a stop whose packages were not written. -/
theorem gatesOk_of_packages_eq (hpackages : db'.packages = db.packages)
    (hdstops : db'.deliveryStops = db.deliveryStops)
    (hsignature : (db'.stopPod d).signatureImageKey = (db.stopPod d).signatureImageKey ∧
      (db'.stopPod d).signatureRequiredSnapshot = (db.stopPod d).signatureRequiredSnapshot)
    (hold : GatesOk db flow d) :
    GatesOk db' flow d ↔ (NeedsPhotos db flow d →
      1 ≤ (db'.listPodPhotos d).length ∧ (db'.listPodPhotos d).length ≤ maxPodPhotos) := by
  obtain ⟨hpending, -, hsigned⟩ := (gatesOk_iff).mp hold
  have hlist : db'.listForDeliveryStop d = db.listForDeliveryStop d := by
    rw [ExecutionDb.listForDeliveryStop, hpackages]
    rfl
  have hneeds : NeedsSignature db' d ↔ NeedsSignature db d := by
    rw [NeedsSignature, hsignature.2, hdstops]
    rfl
  rw [gatesOk_iff, NeedsPhotos, hlist, hneeds, hsignature.1]
  exact ⟨fun h => h.2.1, fun h => ⟨hpending, h, hsigned⟩⟩

/-- Nothing that the gates see was written. -/
theorem GatesOk.congr (hold : GatesOk db flow d) (hpackages : db'.packages = db.packages)
    (hdstops : db'.deliveryStops = db.deliveryStops) (hphotos : db'.podPhotos = db.podPhotos)
    (hsignature : (db'.stopPod d).signatureImageKey = (db.stopPod d).signatureImageKey ∧
      (db'.stopPod d).signatureRequiredSnapshot = (db.stopPod d).signatureRequiredSnapshot) :
    GatesOk db' flow d := by
  refine (gatesOk_of_packages_eq hpackages hdstops hsignature hold).mpr fun hneeds => ?_
  rw [ExecutionDb.listPodPhotos, hphotos]
  exact ((gatesOk_iff).mp hold).2.1 hneeds

theorem listForDeliveryStop_recorded (hpackages : db'.packages = recorded db.packages ids st) :
    db'.listForDeliveryStop d = (db.listForDeliveryStop d).map (PackageRow.record ids st) := by
  unfold ExecutionDb.listForDeliveryStop
  rw [hpackages, rows_recorded, List.filter_map]
  simp only [Function.comp_def, PackageRow.deliveryStopId_record]

theorem mem_listForDeliveryStop {p : PackageRow} :
    p ∈ db.listForDeliveryStop d ↔ p ∈ db.packages.rows ∧ p.deliveryStopId = some d := by
  simp only [ExecutionDb.listForDeliveryStop, List.mem_filter, decide_eq_true_eq]

/-- A status that was recorded on packages: the gates hold if no package of the stop becomes
pending or comes to need photos. -/
theorem GatesOk.recorded (hold : GatesOk db flow d) (hframe : PackagesOnly db db')
    (hpackages : db'.packages = recorded db.packages ids st)
    (hst : ∀ p ∈ db.listForDeliveryStop d, p.id ∈ ids → isPending flow st = false ∧
      (flow = .returnLeg → st = .returned → p.status = .returned)) : GatesOk db' flow d := by
  obtain ⟨hpending, hphotos, hsigned⟩ := (gatesOk_iff).mp hold
  refine (gatesOk_iff).mpr ⟨fun q hq => ?_, fun hneeds => ?_, ?_⟩
  · rw [listForDeliveryStop_recorded hpackages] at hq
    obtain ⟨p, hp, rfl⟩ := List.mem_map.mp hq
    by_cases hid : p.id ∈ ids
    · rw [PackageRow.record_of_mem hid]
      exact (hst p hp hid).1
    · rw [PackageRow.record_of_notMem hid]
      exact hpending p hp
  · have hneeded : NeedsPhotos db flow d := by
      refine hneeds.imp_right fun ⟨hflow, q, hq, hreturned⟩ => ⟨hflow, ?_⟩
      rw [listForDeliveryStop_recorded hpackages] at hq
      obtain ⟨p, hp, rfl⟩ := List.mem_map.mp hq
      refine ⟨p, hp, ?_⟩
      by_cases hid : p.id ∈ ids
      · rw [PackageRow.record_of_mem hid] at hreturned
        exact (hst p hp hid).2 hflow hreturned
      · rwa [PackageRow.record_of_notMem hid] at hreturned
    rw [ExecutionDb.listPodPhotos, hframe.podPhotos]
    exact hphotos hneeded
  · rw [NeedsSignature, ExecutionDb.stopPod, hframe.pods, hframe.deliveryStops]
    exact hsigned

/-- A status with which packages of the stop are pending breaks the gates. -/
theorem not_gatesOk_recorded (hpackages : db'.packages = recorded db.packages ids st)
    {p : PackageRow} (hp : p ∈ db.listForDeliveryStop d) (hid : p.id ∈ ids)
    (hst : isPending flow st ≠ false) : ¬ GatesOk db' flow d := by
  intro hgates
  have hafter : p.record ids st ∈ db'.listForDeliveryStop d := by
    rw [listForDeliveryStop_recorded hpackages]
    exact List.mem_map_of_mem hp
  have hopen := ((gatesOk_iff).mp hgates).1 _ hafter
  rw [PackageRow.record_of_mem hid] at hopen
  exact hst hopen

/-- Photos of some delivery stop were added or deleted. -/
theorem gatesOk_photosCounted {count : ℕ} (hold : GatesOk db flow d)
    (h : PhotosCounted db db' e count) : GatesOk db' flow d ↔
      (e = d → NeedsPhotos db flow d → 1 ≤ count ∧ count ≤ maxPodPhotos) := by
  rw [gatesOk_of_packages_eq h.frame.packages h.frame.deliveryStops (h.signature d) hold,
    h.photos]
  by_cases hd : d = e
  · rw [if_pos hd]
    exact ⟨fun hcount _ => hcount, fun hcount => hcount hd.symm⟩
  · rw [if_neg hd]
    exact iff_of_true ((gatesOk_iff).mp hold).2.1 fun he => absurd he.symm hd

end Gates

/-! ### One request -/

/-- What a request at a route stop would have to do to take the proof away from a stop of the
given flow at the same delivery stop: it does none of it. -/
def StopRequest.TakesNoProof (flow : RouteStopFlowType) (d : Id) (db : ExecutionDb)
    (stop : RouteStop) (request : StopRequest) : Prop :=
  match request.op with
  | .setStopPackageStatus _ status => ∀ st,
      packageStatusFromDriverPatchRequest request.env stop.stopFlowType status = .ok st →
        isPending flow st = false
  | .setReturnStopPackagesStatusBatch _ status => ∀ st,
      packageStatusFromDriverPatchRequest request.env stop.stopFlowType status = .ok st →
        isPending flow st = false
  | .deleteStopPodPhoto _ => NeedsPhotos db flow d → 2 ≤ (db.listPodPhotos d).length
  | .saveStopSignature key required => flow = .delivery →
      (required.getD (db.stopPod d).signatureRequiredSnapshot = true ∨
        ∃ dstop, db.deliveryStops.find? d = some dstop ∧ dstop.signatureRequired = true) →
      key ≠ ""
  | _ => True

/-- An accepted request takes no proof away from a stop of the flow at the delivery stop. -/
def StopRequest.SparesProof (flow : RouteStopFlowType) (d : Id) (db : ExecutionDb)
    (request : StopRequest) : Prop :=
  ∀ stop db', resolveExecutionContext db request.path = .ok (stop, d) →
    request.exec db = .ok db' → request.TakesNoProof flow d db stop

/-- No accepted request reports a package missing that a stop on the return leg has dealt
with. -/
def StopRequest.ReportsNone (flow : RouteStopFlowType) (d : Id) (db : ExecutionDb)
    (request : StopRequest) : Prop :=
  ∀ stop db', resolveExecutionContext db request.path = .ok (stop, d) →
    request.exec db = .ok db' →
    match request.op with
    | .reportMissingPackage _ _ _ => flow ≠ .returnLeg
    | _ => True

/-- On a delivery leg no package is returned. -/
theorem mem_of_deliveryStatus {env : DriverEnv} {status : String}
    (h : packageStatusFromDriverPatchRequest env .delivery status = .ok st) :
    st ∈ packageDriverPatchDeliveryStatuses := by
  replace h := ok_of_check h
  replace h := ok_of_check h
  obtain ⟨st', -, h⟩ := bind_eq_ok.mp h
  obtain ⟨hmem, h⟩ := raiseIf_bind_eq_ok.mp h
  obtain rfl := pure_eq_ok.mp h
  exact not_not.mp hmem

section Step

variable {db db' : ExecutionDb} {flow : RouteStopFlowType} {d : Id} {request : StopRequest}

/-- The condition on an accepted request, at the stop that it was accepted for. -/
theorem sparesProof_iff {stop : RouteStop}
    (hctx : resolveExecutionContext db request.path = .ok (stop, e))
    (hexec : request.exec db = .ok db') :
    request.SparesProof flow d db ↔ (e = d → request.TakesNoProof flow d db stop) := by
  constructor
  · rintro h rfl
    exact h stop db' hctx hexec
  · intro h stop' db'' hctx' _
    obtain ⟨rfl, rfl⟩ := Prod.mk.inj (Except.ok.inj (hctx.symm.trans hctx'))
    exact h rfl

/-- On a return leg that was completed the lock lets only the same outcome through. -/
theorem outcome_of_lock {p : PackageRow} (hold : GatesOk db .returnLeg d)
    (hp : p ∈ db.listForDeliveryStop d) (hlock : ¬ outcomeConflicts p st) : p.status = st := by
  have hfinal := ((gatesOk_iff).mp hold).1 p hp
  simp only [isPending, decide_eq_false_iff_not, not_not] at hfinal
  by_contra hne
  exact hlock ⟨hfinal, hne⟩

/-- A status that was set at some stop. -/
theorem gatesOk_setStatus_iff (hold : GatesOk db flow d) (hframe : PackagesOnly db db')
    (hpackages : db'.packages = recorded db.packages ids st)
    (hat : ∀ p ∈ db.packages.rows, p.id ∈ ids → p.deliveryStopId = some e)
    (hsome : ∃ p ∈ db.packages.rows, p.id ∈ ids)
    (hlock : st = .returned → ∀ p ∈ db.packages.rows, p.id ∈ ids → ¬ outcomeConflicts p st) :
    GatesOk db' flow d ↔ (e = d → isPending flow st = false) := by
  constructor
  · rintro hgates rfl
    by_contra hpending
    obtain ⟨p, hp, hid⟩ := hsome
    exact not_gatesOk_recorded hpackages (mem_listForDeliveryStop.mpr ⟨hp, hat p hp hid⟩) hid
      hpending hgates
  · intro hst
    refine hold.recorded hframe hpackages fun p hp hid => ?_
    obtain ⟨hrow, hdelivery⟩ := mem_listForDeliveryStop.mp hp
    have hsame : e = d := Option.some.inj ((hat p hrow hid).symm.trans hdelivery)
    refine ⟨hst hsame, ?_⟩
    rintro rfl rfl
    exact outcome_of_lock hold hp (hlock rfl p hrow hid)

/-- A scan loads packages that wait for their pickup, and on no leg is such a package dealt
with. -/
theorem gatesOk_scan {scanValue : String} {env : DriverEnv} {path : StopPath}
    (hold : GatesOk db flow d) (h : scanStopPackage env db path scanValue = .ok db') :
    GatesOk db' flow d := by
  obtain ⟨hframe, stop, e, -, hsame | ⟨-, hcollected⟩⟩ := scanStopPackage_ok h
  · refine hold.congr hsame hframe.deliveryStops hframe.podPhotos ?_
    rw [ExecutionDb.stopPod, hframe.pods]
    exact ⟨rfl, rfl⟩
  · refine hold.recorded hframe hcollected fun p hp hid => ?_
    obtain ⟨q, hq, hqid⟩ := List.mem_map.mp hid
    obtain ⟨hrow, -, hwaits⟩ := mem_toCollect.mp hq
    obtain rfl := Table.eq_of_key hrow
      (mem_listForDeliveryStop.mp hp).1 hqid
    -- The package is dealt with, so it does not wait.
    have hdone := ((gatesOk_iff).mp hold).1 q hp
    have hwaiting : ∀ flow, ∀ status ∈ packagePrePickupForScanStatuses,
        isPending flow status = true := by
      intro flow
      cases flow <;> decide
    rw [hwaiting flow _ hwaits] at hdone
    exact absurd hdone (by simp)

/-- A signature that was saved. -/
theorem gatesOk_saved_iff {key : String} {required : Option Bool} (hold : GatesOk db flow d)
    (hframe : PodOnly db db') (hphotos : db'.podPhotos = db.podPhotos)
    (hpod : ∀ i, db'.stopPod i = if i = e then { db.stopPod i with
      signatureImageKey := some key
      signatureRequiredSnapshot := required.getD (db.stopPod i).signatureRequiredSnapshot }
      else db.stopPod i) :
    GatesOk db' flow d ↔ (e = d → flow = .delivery →
      (required.getD (db.stopPod d).signatureRequiredSnapshot = true ∨
        ∃ dstop, db.deliveryStops.find? d = some dstop ∧ dstop.signatureRequired = true) →
      key ≠ "") := by
  by_cases he : d = e
  · subst he
    obtain ⟨hpending, hcount, -⟩ := (gatesOk_iff).mp hold
    rw [gatesOk_iff, NeedsPhotos, NeedsSignature, ExecutionDb.listForDeliveryStop,
      hframe.packages, ExecutionDb.listPodPhotos, hphotos, hframe.deliveryStops, hpod, if_pos rfl]
    exact ⟨fun h _ => h.2.2, fun h => ⟨hpending, hcount, h rfl⟩⟩
  · refine iff_of_true ?_ fun h => absurd h.symm he
    refine hold.congr hframe.packages hframe.deliveryStops hphotos ?_
    rw [hpod, if_neg he]
    exact ⟨rfl, rfl⟩

/-- **One accepted request** leaves the gates of a stop open exactly if it takes no proof
away. -/
theorem gatesOk_exec_iff (hold : GatesOk db flow d) (hexec : request.exec db = .ok db')
    (hreports : request.ReportsNone flow d db) :
    GatesOk db' flow d ↔ request.SparesProof flow d db := by
  obtain ⟨env, path, actor, now, op⟩ := request
  cases op with
  | acknowledgeStopNotes notesHash =>
      obtain ⟨acks, rfl⟩ := acknowledgeStopNotes_ok hexec
      exact iff_of_true (hold.congr rfl rfl rfl ⟨rfl, rfl⟩) fun _ _ _ _ => trivial
  | scanStopPackage scanValue =>
      exact iff_of_true (gatesOk_scan hold hexec) fun _ _ _ _ => trivial
  | setStopPackageStatus packageId status =>
      obtain ⟨stop, e, package, st, hctx, -, -, hmem, hdelivery, hflow, hst, hlock, rfl⟩ :=
        setStopPackageStatus_eq_ok.mp hexec
      have hone : ∀ p ∈ db.packages.rows, p.id ∈ [package.id] → p = package := fun p hp hid =>
        Table.eq_of_key hp hmem (List.mem_singleton.mp hid)
      have hreturned : st = .returned → stop.stopFlowType = .returnLeg := by
        rintro rfl
        cases hleg : stop.stopFlowType with
        | returnLeg => rfl
        | pickup => exact absurd hleg hflow
        | delivery =>
            rw [hleg] at hst
            exact absurd (mem_of_deliveryStatus hst) (by decide)
      rw [sparesProof_iff hctx hexec, gatesOk_setStatus_iff hold
        (packagesOnly_updatePackageStatus db package st actor)
        (packages_updatePackageStatus (loaded_of_mem hmem))
        (fun p hp hid => hone p hp hid ▸ hdelivery) ⟨package, hmem, List.mem_cons_self⟩
        fun h p hp hid hconflict => hlock ⟨hreturned h, hone p hp hid ▸ hconflict⟩]
      refine imp_congr_right fun _ => ⟨fun h st' hst' => ?_, fun h => h st hst⟩
      rwa [Except.ok.inj (hst'.symm.trans hst)]
  | setReturnStopPackagesStatusBatch packageIds status =>
      obtain ⟨stop, e, st, ordered, hctx, -, hreturn, hne, hst, hordered, hlock, rfl⟩ :=
        setReturnStopPackagesStatusBatch_ok hexec
      have hrows : ∀ p ∈ ordered, p ∈ db.packages.rows ∧ p.deliveryStopId = some e := fun p hp =>
        (exists_of_forall₂_right hordered hp).elim fun _ h => ⟨h.2.1, h.2.2.1⟩
      have hone : ∀ p ∈ db.packages.rows, p.id ∈ ordered.map (·.id) → p ∈ ordered := by
        intro p hp hid
        obtain ⟨q, hq, hqid⟩ := List.mem_map.mp hid
        rwa [← Table.eq_of_key (hrows q hq).1 hp hqid]
      have hsome : ∃ p ∈ db.packages.rows, p.id ∈ ordered.map (·.id) := by
        obtain ⟨text, htext⟩ := List.exists_mem_of_ne_nil _ hne
        obtain ⟨p, hp, hrow, -⟩ := exists_of_forall₂_right hordered.flip htext
        exact ⟨p, hrow, List.mem_map_of_mem hp⟩
      rw [sparesProof_iff hctx hexec, gatesOk_setStatus_iff hold
        (PackagesOnly.foldl (fun db p => packagesOnly_updatePackageStatus db p st actor) ordered db)
        (packages_foldl_updatePackageStatus fun p hp => (hrows p hp).1)
        (fun p hp hid => (hrows p (hone p hp hid)).2) hsome
        fun _ p hp hid => hlock p (hone p hp hid)]
      refine imp_congr_right fun _ => ⟨fun h st' hst' => ?_, fun h => h st (hreturn ▸ hst)⟩
      rw [hreturn] at hst'
      rwa [Except.ok.inj (hst'.symm.trans hst)]
  | reportMissingPackage packageId reasonCode details =>
      obtain ⟨hframe, stop, e, package, hctx, -, -, hmem, hdelivery, hafter⟩ :=
        reportMissingPackage_ok hexec
      have hone : ∀ p ∈ db.packages.rows, p.id ∈ [package.id] → p = package := fun p hp hid =>
        Table.eq_of_key hp hmem (List.mem_singleton.mp hid)
      refine iff_of_true ((gatesOk_setStatus_iff hold hframe hafter
        (fun p hp hid => hone p hp hid ▸ hdelivery) ⟨package, hmem, List.mem_cons_self⟩ nofun).mpr
        ?_) fun _ _ _ _ => trivial
      rintro rfl
      have hleg : flow ≠ .returnLeg := hreports stop db' hctx hexec
      cases flow with
      | pickup => rfl
      | delivery => rfl
      | returnLeg => exact absurd rfl hleg
  | createStopPodUploadUrl uploads =>
      obtain ⟨stop, e, -, -, hmax, hcount⟩ := createStopPodUploadUrl_ok hexec
      refine iff_of_true ((gatesOk_photosCounted hold hcount).mpr ?_) fun _ _ _ _ => trivial
      rintro rfl hneeds
      have hbefore := ((gatesOk_iff).mp hold).2.1 hneeds
      exact ⟨by omega, hmax⟩
  | confirmStopPodPhoto imageKey =>
      obtain ⟨stop, e, count, -, hle, hmax, hcount⟩ := confirmStopPodPhoto_ok hexec
      refine iff_of_true ((gatesOk_photosCounted hold hcount).mpr ?_) fun _ _ _ _ => trivial
      rintro rfl hneeds
      exact ⟨(((gatesOk_iff).mp hold).2.1 hneeds).1.trans hle, hmax⟩
  | deleteStopPodPhoto photoId =>
      obtain ⟨stop, e, hctx, -, hcount⟩ := deleteStopPodPhoto_ok hexec
      rw [sparesProof_iff hctx hexec, gatesOk_photosCounted hold hcount]
      refine forall_congr' fun he => forall_congr' fun hneeds => ?_
      subst he
      have hbefore := ((gatesOk_iff).mp hold).2.1 hneeds
      constructor
      · rintro ⟨hmin, -⟩
        omega
      · intro hmin
        exact ⟨by omega, by omega⟩
  | saveStopSignature key required =>
      obtain ⟨stop, e, hctx, hframe, hphotos, hpod⟩ := saveStopSignature_ok hexec
      rw [sparesProof_iff hctx hexec]
      exact gatesOk_saved_iff hold hframe hphotos hpod
  | completeStopDelivery notes =>
      obtain ⟨stop, e, -, -, -, hdstops, hpackages, hphotos, hpod⟩ :=
        completeStopDelivery_ok hexec
      refine iff_of_true (hold.congr hpackages hdstops hphotos ?_) fun _ _ _ _ => trivial
      rw [hpod]
      split_ifs <;> exact ⟨rfl, rfl⟩

/-- A completed stop whose gates are open. -/
def ProvenStop (db : ExecutionDb) (stopId : Id) : Prop :=
  ∃ stop d, db.routeStops.find? stopId = some stop ∧ stop.deliveryStopId = some d ∧
    stop.status = .completed ∧ GatesOk db stop.stopFlowType d

/-- The request takes no proof away from the route stop. -/
def StopRequest.SparesStop (stopId : Id) (db : ExecutionDb) (request : StopRequest) : Prop :=
  ∀ stop d, db.routeStops.find? stopId = some stop → stop.deliveryStopId = some d →
    request.SparesProof stop.stopFlowType d db

/-- If the route stop is a return leg, the request reports none of its packages missing. -/
def StopRequest.ReportsNoneOf (stopId : Id) (db : ExecutionDb) (request : StopRequest) : Prop :=
  ∀ stop d, db.routeStops.find? stopId = some stop → stop.deliveryStopId = some d →
    request.ReportsNone stop.stopFlowType d db

/-- **One request** keeps a completed stop proven exactly if it takes no proof away. -/
theorem provenStop_step_iff {stopId : Id} (hproven : ProvenStop db stopId)
    (hreports : request.ReportsNoneOf stopId db) :
    ProvenStop (request.step db) stopId ↔ request.SparesStop stopId db := by
  obtain ⟨stop, d, hstop, hd, hdone, hold⟩ := hproven
  have hspares : request.SparesStop stopId db ↔ request.SparesProof stop.stopFlowType d db := by
    refine ⟨fun h => h stop d hstop hd, fun h stop' d' hstop' hd' => ?_⟩
    obtain rfl := Option.some.inj (hstop.symm.trans hstop')
    obtain rfl := Option.some.inj (hd.symm.trans hd')
    exact h
  rw [hspares]
  -- The stop is the same leg after the request, and still completed.
  obtain ⟨stop', hstop', hleg⟩ := routeStop_step request hstop
  have hgates : ProvenStop (request.step db) stopId ↔
      GatesOk (request.step db) stop.stopFlowType d := by
    constructor
    · rintro ⟨stop'', d'', hstop'', hd'', -, hgates⟩
      obtain rfl := Option.some.inj (hstop'.symm.trans hstop'')
      rw [hleg.deliveryStopId, hd] at hd''
      rwa [hleg.stopFlowType, ← Option.some.inj hd''] at hgates
    · intro hgates
      refine ⟨stop', d, hstop', hleg.deliveryStopId.trans hd, hleg.completed hdone, ?_⟩
      rwa [hleg.stopFlowType]
  rw [hgates]
  unfold StopRequest.step
  cases hexec : request.exec db with
  | error e => exact iff_of_true hold fun _ _ _ hok => absurd (hexec.symm.trans hok) nofun
  | ok db' => exact gatesOk_exec_iff hold hexec (hreports stop d hstop hd)

end Step

/-! ### Runs -/

/-- A stop is proven when it has been completed. -/
theorem provenStop_of_complete {env : DriverEnv} {db db' : ExecutionDb} {path : StopPath}
    {notes : Option String} {now : Instant}
    (h : completeStopDelivery env db path notes now = .ok db') : ProvenStop db' path.stopId := by
  obtain ⟨stop, d, hctx, hgates, hstops, hdstops, hpackages, hphotos, hpod⟩ :=
    completeStopDelivery_ok h
  obtain ⟨hstop, hd⟩ := find?_of_context hctx
  refine ⟨stop.complete now notes, d, ?_, hd, rfl,
    hgates.congr hpackages hdstops hphotos ?_⟩
  · rw [hstops, Table.find?_modify_self, hstop]
    rfl
  · rw [hpod]
    split_ifs <;> exact ⟨rfl, rfl⟩

/-- **Completed stops stay proven.** A stop that was completed is proven, and stays proven along
every run after it exactly if no accepted request takes proof away: none records a status with
which a package is pending on the leg of the stop, none deletes the last photo that it needs,
and none saves an empty signature where one is required. Runs that report a package of a
completed return leg missing are left out. -/
theorem completed_stops_stay_proven {env : DriverEnv} {db db' : ExecutionDb} {path : StopPath}
    {notes : Option String} {now : Instant}
    (hcomplete : completeStopDelivery env db path notes now = .ok db')
    (requests : List StopRequest)
    (hreports : Runs.Along StopRequest.step
      (fun db request => request.ReportsNoneOf path.stopId db) db' requests) :
    ProvenStop db' path.stopId ∧
      ((∀ pre post, requests = pre ++ post →
          ProvenStop (Runs.run StopRequest.step db' pre) path.stopId) ↔
        Runs.Along StopRequest.step (fun db request => request.SparesStop path.stopId db) db'
          requests) := by
  have hproven := provenStop_of_complete hcomplete
  exact ⟨hproven, Runs.forall_prefix_iff_of_along (M := fun db => ProvenStop db path.stopId)
    (fun db request hproven hreports => provenStop_step_iff hproven hreports) hproven hreports⟩

/-! ### A photo that is deleted after the delivery -/

/-- A delivery stop with one parcel in the van. -/
def deliveryDb : ExecutionDb :=
  oneStopDb .delivery ⟨[⟨1, "PKG-00000001", 1, some 1, .outForDelivery⟩], by decide⟩

/-- The parcel is handed over and photographed. -/
def handOver : List StopRequest :=
  [stopRequest (.setStopPackageStatus "00000000-0000-4000-8000-000000000001"
      "DELIVERED_TO_CUSTOMER"),
    stopRequest (.confirmStopPodPhoto "cf-image-1")]

/-- The stop is completed. -/
def completion : StopRequest := stopRequest (.completeStopDelivery none)

/-- The state after that. -/
def deliveredDb : ExecutionDb :=
  completion.step (Runs.run StopRequest.step deliveryDb handOver)

/-- The only photo of the completed stop is deleted, and the stop stays completed. -/
theorem proof_deleted_after_completion :
    ProvenStop deliveredDb 1 ∧
      ((stopRequest (.deleteStopPodPhoto 1)).step deliveredDb).routeStops.rows.map (·.status)
        = [.completed] ∧
      ¬ ProvenStop ((stopRequest (.deleteStopPodPhoto 1)).step deliveredDb) 1 := by
  have hcomplete : completion.exec (Runs.run StopRequest.step deliveryDb handOver)
      = .ok deliveredDb := StopRequest.exec_eq_step (by decide +kernel)
  refine ⟨provenStop_of_complete hcomplete, by decide +kernel, ?_⟩
  rintro ⟨stop, d, hstop, hd, -, -, hpod, -⟩
  have hclosed : ∀ s ∈ ((stopRequest (.deleteStopPodPhoto 1)).step deliveredDb).routeStops.rows,
      s.deliveryStopId = some 1 ∧ (stopGates ((stopRequest (.deleteStopPodPhoto 1)).step
        deliveredDb) s.stopFlowType 1).podOk = false := by decide +kernel
  obtain ⟨hd', hclosed⟩ := hclosed stop (Table.find?_eq_some_iff.mp hstop).1
  obtain rfl := Option.some.inj (hd'.symm.trans hd)
  rw [hclosed] at hpod
  exact absurd hpod nofun

/-- A second photo is taken, and the first one deleted. -/
def photoReplaced : List StopRequest :=
  [stopRequest (.confirmStopPodPhoto "cf-image-2"), stopRequest (.deleteStopPodPhoto 1)]

/-- The stop is still proven. -/
theorem proof_kept_by_second_photo :
    ProvenStop (Runs.run StopRequest.step deliveredDb photoReplaced) 1 ∧
      (Runs.run StopRequest.step deliveredDb photoReplaced).podPhotos.rows.map (·.imageKey)
        = ["cf-image-2"] := by
  have hcomplete : completion.exec (Runs.run StopRequest.step deliveryDb handOver)
      = .ok deliveredDb := StopRequest.exec_eq_step (by decide +kernel)
  refine ⟨((completed_stops_stay_proven hcomplete photoReplaced ?_).2.mpr ?_) photoReplaced []
    (List.append_nil _).symm, by decide +kernel⟩
  · exact ⟨fun _ _ _ _ _ _ _ _ => trivial, fun _ _ _ _ _ _ _ _ => trivial, trivial⟩
  · refine ⟨fun _ _ _ _ _ _ _ _ => trivial, fun stop d hstop hd _ _ _ _ _ => ?_, trivial⟩
    -- There are two photos when the first one is deleted.
    have htwo : ∀ s ∈ ((stopRequest (.confirmStopPodPhoto "cf-image-2")).step
        deliveredDb).routeStops.rows, s.deliveryStopId = some 1 ∧
          2 ≤ (((stopRequest (.confirmStopPodPhoto "cf-image-2")).step
            deliveredDb).listPodPhotos 1).length := by decide +kernel
    obtain ⟨hd', htwo⟩ := htwo stop (Table.find?_eq_some_iff.mp hstop).1
    obtain rfl := Option.some.inj (hd'.symm.trans hd)
    exact htwo

end SwCouriers
