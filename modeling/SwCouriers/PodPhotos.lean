import SwCouriers.Lib.Numbering
import SwCouriers.StopEffects

/-!
# Photos of a Delivery

The photos that prove a delivery are numbered: no two photos of a delivery stop have the same
sort order, which the database enforces. A new photo takes the number of photos so far, plus
one. After a deletion that is not the last photo's this number is in use, and the database
refuses the next photo, although there is room for it.

## Main results

* `photosSound_run`: no request makes more than five photos, repeats a sort order or loses
  count of the photos.
* `photo_slots_open_iff`: photos that fit are accepted in every state of a run exactly if no
  accepted request deletes a photo that is not the last one of the delivery stop.
* `deleted_photo_jams_stop`: two photos, of which the first is deleted.
-/

namespace SwCouriers

open Checked Numbering

/-! ### What is promised -/

/-- The sort orders in use at a delivery stop. -/
def ExecutionDb.photoSlots (db : ExecutionDb) (deliveryStopId : Id) : List ℕ :=
  (db.listPodPhotos deliveryStopId).map (·.sortOrder)

@[simp] theorem length_photoSlots (db : ExecutionDb) (deliveryStopId : Id) :
    (db.photoSlots deliveryStopId).length = (db.listPodPhotos deliveryStopId).length :=
  List.length_map _

/-- The photos of a delivery stop: at most five, with different sort orders, counted. -/
structure PhotosSound (db : ExecutionDb) (deliveryStopId : Id) : Prop where
  atMost : (db.listPodPhotos deliveryStopId).length ≤ maxPodPhotos
  distinct : (db.photoSlots deliveryStopId).Nodup
  counted : (db.stopPod deliveryStopId).photosCount
    = (db.listPodPhotos deliveryStopId).length

/-- A file that may be uploaded, and that the image store takes. -/
def UploadFile.Valid (env : DriverEnv) (upload : UploadFile) : Prop :=
  (upload.contentType.getD "").toLower ∈ allowedPodTypes ∧
    upload.size ≤ 5 * 1024 * 1024 ∧ ∃ imageId, env.uploadImage upload = .ok imageId

/-- Whoever adds valid photos at the delivery stop, and no more than there is room for,
succeeds: with files, or by confirming an image that was uploaded directly. -/
structure SlotsOpen (db : ExecutionDb) (deliveryStopId : Id) : Prop where
  upload : ∀ env path stop (uploads : List UploadFile),
    resolveExecutionContext db path = .ok (stop, deliveryStopId) → uploads ≠ [] →
    (∀ upload ∈ uploads, upload.Valid env) →
    (db.listPodPhotos deliveryStopId).length + uploads.length ≤ maxPodPhotos →
    ∃ db', createStopPodUploadUrl env db path uploads = .ok db'
  confirm : ∀ path stop imageKey,
    resolveExecutionContext db path = .ok (stop, deliveryStopId) →
    (db.listPodPhotos deliveryStopId).length + 1 ≤ maxPodPhotos →
    ∃ db', confirmStopPodPhoto db path imageKey = .ok db'

/-- If the request deletes a photo of the delivery stop, it is the one with the last sort
order. -/
def StopRequest.DeletesLast (deliveryStopId : Id) (db : ExecutionDb) (request : StopRequest) :
    Prop :=
  match request.op with
  | .deleteStopPodPhoto photoId => ∀ stop,
      resolveExecutionContext db request.path = .ok (stop, deliveryStopId) →
      ∀ photo ∈ db.listPodPhotos deliveryStopId, photo.id = photoId →
        ∀ order ∈ db.photoSlots deliveryStopId, order ≤ photo.sortOrder
  | _ => True

/-! ### Adding photos -/

section Adding

variable {env : DriverEnv} {db db' : ExecutionDb} {path : StopPath} {d driverId : Id}

theorem mem_photoSlots {order : ℕ} :
    order ∈ db.photoSlots d ↔ ∃ photo ∈ db.listPodPhotos d, photo.sortOrder = order :=
  List.mem_map

/-- A photo is stored when its sort order is free. -/
theorem exists_createPodPhoto {order : ℕ} (imageKey : String)
    (hfree : order ∉ db.photoSlots d) :
    ∃ db', db.createPodPhoto d imageKey order driverId = .ok db' :=
  ⟨_, bind_eq_ok.mpr ⟨⟨⟩, raiseIf_eq_ok.mpr (mem_photoSlots.not.mp hfree), rfl⟩⟩

/-- A photo that was stored has a sort order that was free. -/
theorem photoSlots_createPodPhoto {imageKey : String} {order : ℕ}
    (h : db.createPodPhoto d imageKey order driverId = .ok db') :
    order ∉ db.photoSlots d ∧
      ∀ e, db'.photoSlots e = db.photoSlots e ++ if d = e then [order] else [] := by
  obtain ⟨hraise, h⟩ := raiseIf_bind_eq_ok.mp h
  obtain rfl := pure_eq_ok.mp h
  refine ⟨mem_photoSlots.not.mpr hraise, fun e => ?_⟩
  have hfresh := Table.fresh_notMem db.podPhotos
  simp only [ExecutionDb.photoSlots, ExecutionDb.listPodPhotos]
  rw [Table.rows_insert_of_notMem hfresh, List.filter_append, List.map_append]
  split_ifs with he <;> simp [he]

/-- The loop gives the files the next sort orders, which were free. -/
theorem photoSlots_uploadPhotos {uploads : List UploadFile} {next : ℕ}
    (h : uploadPhotos env d driverId next uploads db = .ok db') (e : Id) :
    db'.photoSlots e
        = db.photoSlots e ++ (if d = e then List.range' next uploads.length else []) ∧
      ((db.photoSlots e).Nodup → (db'.photoSlots e).Nodup) := by
  induction uploads generalizing db next with
  | nil =>
      obtain rfl := Except.ok.inj h
      exact ⟨by simp, id⟩
  | cons upload uploads ih =>
      replace h := ok_of_check h
      replace h := ok_of_check h
      obtain ⟨imageId, -, h⟩ := bind_eq_ok.mp h
      obtain ⟨db₁, hphoto, h⟩ := bind_eq_ok.mp h
      obtain ⟨hslots, hnodup⟩ := ih h
      obtain ⟨hfree, hslots₁⟩ := photoSlots_createPodPhoto hphoto
      refine ⟨?_, fun hold => hnodup ?_⟩
      · rw [hslots, hslots₁, List.append_assoc, List.length_cons, List.range'_succ]
        split_ifs <;> rfl
      · rw [hslots₁]
        split_ifs with he
        · subst he
          exact List.concat_eq_append ▸ hold.concat hfree
        · rwa [List.append_nil]

/-- Valid files are stored when the next sort orders are free. -/
theorem exists_uploadPhotos {uploads : List UploadFile} {next : ℕ}
    (hvalid : ∀ upload ∈ uploads, upload.Valid env)
    (hfree : ∀ order ∈ List.range' next uploads.length, order ∉ db.photoSlots d) :
    ∃ db', uploadPhotos env d driverId next uploads db = .ok db' := by
  induction uploads generalizing db next with
  | nil => exact ⟨db, rfl⟩
  | cons upload uploads ih =>
      obtain ⟨htype, hsize, imageId, hstored⟩ := hvalid upload List.mem_cons_self
      rw [List.length_cons, List.range'_succ] at hfree
      obtain ⟨db₁, hphoto⟩ : ∃ db₁, db.createPodPhoto d imageId next driverId = .ok db₁ :=
        exists_createPodPhoto imageId (hfree next List.mem_cons_self)
      have hrest : ∀ order ∈ List.range' (next + 1) uploads.length,
          order ∉ db₁.photoSlots d := by
        intro order horder
        rw [(photoSlots_createPodPhoto hphoto).2 d, if_pos rfl, List.mem_append,
          List.mem_singleton, not_or]
        have hnext := (List.mem_range'_1.mp horder).1
        exact ⟨hfree order (List.mem_cons_of_mem _ horder), by omega⟩
      obtain ⟨db', hrest⟩ := ih (fun u hu => hvalid u (List.mem_cons_of_mem _ hu)) hrest
      refine ⟨db', bind_eq_ok.mpr ⟨⟨⟩, raiseIf_eq_ok.mpr (not_not.mpr htype), ?_⟩⟩
      have hchecked : validateUpload upload = .ok () :=
        bind_eq_ok.mpr ⟨⟨⟩, raiseIf_eq_ok.mpr (not_not.mpr htype),
          raiseIf_eq_ok.mpr (not_lt.mpr hsize)⟩
      refine bind_eq_ok.mpr ⟨⟨⟩, hchecked, bind_eq_ok.mpr ⟨imageId, hstored, ?_⟩⟩
      exact bind_eq_ok.mpr ⟨_, hphoto, hrest⟩

end Adding

/-! ### One accepted request -/

/-- What an accepted request does to the photos of a delivery stop: nothing, or it adds some
with the next sort orders, or it deletes one. -/
inductive PhotoChange (request : StopRequest) (db db' : ExecutionDb) (d : Id) : Prop where
  | kept (slots : db'.photoSlots d = db.photoSlots d)
      (count : (db'.stopPod d).photosCount = (db.stopPod d).photosCount)
  | added (k : ℕ) (fits : (db.listPodPhotos d).length + k ≤ maxPodPhotos)
      (slots : db'.photoSlots d = db.photoSlots d
        ++ List.range' ((db.listPodPhotos d).length + 1) k)
      (distinct : (db.photoSlots d).Nodup → (db'.photoSlots d).Nodup)
      (count : (db'.stopPod d).photosCount = (db.listPodPhotos d).length + k)
  | removed (photo : StopPodPhoto) (stop : RouteStop)
      (op : request.op = .deleteStopPodPhoto photo.id)
      (context : resolveExecutionContext db request.path = .ok (stop, d))
      (mem : photo ∈ db.listPodPhotos d)
      (slots : (db.photoSlots d).Perm (photo.sortOrder :: db'.photoSlots d))
      (count : (db'.stopPod d).photosCount = (db'.listPodPhotos d).length)

section Exec

variable {request : StopRequest} {db db' : ExecutionDb} {d : Id}

/-- The number that is written down at the end of each request about photos. -/
theorem photosCount_noted {db₁ : ExecutionDb} {e : Id}
    (hpods : db₁.pods = (db.getOrCreateStopPod e).pods) (noted : ℕ) :
    ((db₁.modifyStopPod e (fun pod => { pod with photosCount := noted })
        fun _ => rfl).stopPod d).photosCount
      = if d = e then noted else (db.stopPod d).photosCount := by
  rw [stopPod_noted hpods]
  split_ifs <;> rfl

theorem photoChange_of_packagesOnly (h : PackagesOnly db db') : PhotoChange request db db' d := by
  refine .kept ?_ ?_
  · rw [ExecutionDb.photoSlots, ExecutionDb.listPodPhotos, h.podPhotos]
    rfl
  · rw [ExecutionDb.stopPod, h.pods, ExecutionDb.stopPod]

/-- Adding photos at one delivery stop changes nothing at the others. -/
theorem photoChange_of_added {db₁ : ExecutionDb} {e : Id} {k : ℕ}
    (hfits : (db.listPodPhotos e).length + k ≤ maxPodPhotos)
    (hpods : db₁.pods = (db.getOrCreateStopPod e).pods)
    (hslots : ∀ i, db₁.photoSlots i = db.photoSlots i
      ++ if e = i then List.range' ((db.listPodPhotos e).length + 1) k else [])
    (hdistinct : (db.photoSlots e).Nodup → (db₁.photoSlots e).Nodup) :
    PhotoChange request db (db₁.modifyStopPod e
      (fun pod => { pod with photosCount := (db.listPodPhotos e).length + k }) fun _ => rfl) d := by
  have hcount := photosCount_noted (d := d) hpods ((db.listPodPhotos e).length + k)
  have hslots := hslots d
  by_cases he : e = d
  · subst he
    rw [if_pos rfl] at hcount hslots
    exact .added k hfits hslots hdistinct hcount
  · rw [if_neg (Ne.symm he)] at hcount
    rw [if_neg he, List.append_nil] at hslots
    exact .kept hslots hcount

theorem photoChange_createStopPodUploadUrl {env : DriverEnv} {path : StopPath}
    {uploads : List UploadFile} (h : createStopPodUploadUrl env db path uploads = .ok db') :
    PhotoChange request db db' d := by
  obtain ⟨⟨stop, e⟩, -, h⟩ := bind_eq_ok.mp h
  replace h := ok_of_check h
  replace h := ok_of_check h
  obtain ⟨hmax, h⟩ := raiseIf_bind_eq_ok.mp h
  obtain ⟨db₁, hloop, h⟩ := bind_eq_ok.mp h
  obtain rfl := pure_eq_ok.mp h
  exact photoChange_of_added (not_lt.mp hmax) (uploadPhotos_ok hloop).2.1
    (fun i => (photoSlots_uploadPhotos hloop i).1) (photoSlots_uploadPhotos hloop e).2

theorem photoChange_confirmStopPodPhoto {path : StopPath} {imageKey : String}
    (h : confirmStopPodPhoto db path imageKey = .ok db') : PhotoChange request db db' d := by
  obtain ⟨⟨stop, e⟩, -, h⟩ := bind_eq_ok.mp h
  obtain ⟨hmax, h⟩ := raiseIf_bind_eq_ok.mp h
  split_ifs at h
  · obtain rfl := pure_eq_ok.mp h
    exact .kept rfl (by rw [stopPod_getOrCreateStopPod])
  · obtain ⟨db₁, hphoto, h⟩ := bind_eq_ok.mp h
    obtain rfl := pure_eq_ok.mp h
    obtain ⟨hfree, hslots⟩ := photoSlots_createPodPhoto hphoto
    refine photoChange_of_added (not_le.mp hmax) (createPodPhoto_ok hphoto).2.1
      hslots fun hold => ?_
    rw [hslots, if_pos rfl, ← List.concat_eq_append]
    exact hold.concat hfree

/-- A deletion that is accepted takes the photo from its delivery stop. -/
theorem deleteStopPodPhoto_slots {path : StopPath} {photoId : Id}
    (h : deleteStopPodPhoto db path photoId = .ok db') :
    ∃ stop e photo, resolveExecutionContext db path = .ok (stop, e) ∧
      photo ∈ db.listPodPhotos e ∧ photo.id = photoId ∧
      (∀ path, resolveExecutionContext db' path = resolveExecutionContext db path) ∧
      (db.photoSlots e).Perm (photo.sortOrder :: db'.photoSlots e) ∧
      (∀ i, i ≠ e → db'.photoSlots i = db.photoSlots i) ∧
      ∀ i, (db'.stopPod i).photosCount
        = if i = e then (db'.listPodPhotos e).length else (db.stopPod i).photosCount := by
  obtain ⟨⟨stop, e⟩, hctx, h⟩ := bind_eq_ok.mp h
  obtain ⟨hfound, h⟩ := raiseIf_bind_eq_ok.mp h
  obtain rfl := pure_eq_ok.mp h
  obtain ⟨photo, hmem, rfl⟩ : ∃ photo ∈ db.listPodPhotos e, photo.id = photoId := by
    simpa using hfound
  let deleted : ExecutionDb :=
    { db with podPhotos := db.podPhotos.deleteWhere fun p => p.id = photo.id }
  have hlist : ∀ i, deleted.listPodPhotos i
      = if i = e then (db.listPodPhotos i).erase photo else db.listPodPhotos i :=
    listPodPhotos_delete rfl hmem
  have hslots : deleted.photoSlots e = ((db.listPodPhotos e).erase photo).map (·.sortOrder) :=
    congrArg _ ((hlist e).trans (if_pos rfl))
  refine ⟨stop, e, photo, hctx, hmem, rfl, fun _ => rfl, ?_, fun i hi => ?_, fun i => ?_⟩
  · exact hslots ▸ (List.perm_cons_erase hmem).map StopPodPhoto.sortOrder
  · exact congrArg (List.map _) ((hlist i).trans (if_neg hi))
  · exact @photosCount_noted db i (deleted.getOrCreateStopPod e) e rfl _

/-- A photo of the stop can be deleted. -/
theorem exists_deleteStopPodPhoto {path : StopPath} {stop : RouteStop} {photo : StopPodPhoto}
    (hctx : resolveExecutionContext db path = .ok (stop, d)) (hmem : photo ∈ db.listPodPhotos d) :
    ∃ db', deleteStopPodPhoto db path photo.id = .ok db' := by
  refine ⟨_, bind_eq_ok.mpr ⟨(stop, d), hctx, bind_eq_ok.mpr ⟨⟨⟩, ?_, rfl⟩⟩⟩
  exact raiseIf_eq_ok.mpr fun hnone => hnone photo hmem rfl

theorem photoChange_deleteStopPodPhoto {photoId : Id}
    (hop : request.op = .deleteStopPodPhoto photoId)
    (h : deleteStopPodPhoto db request.path photoId = .ok db') :
    PhotoChange request db db' d := by
  obtain ⟨stop, e, photo, hctx, hmem, rfl, -, hslots, hother, hcount⟩ :=
    deleteStopPodPhoto_slots h
  have hcount := hcount d
  by_cases he : d = e
  · subst he
    exact .removed photo stop hop hctx hmem hslots (hcount.trans (if_pos rfl))
  · exact .kept (hother d he) (hcount.trans (if_neg he))

/-- **One accepted request** on the photos of a delivery stop. -/
theorem photoChange_exec (h : request.exec db = .ok db') : PhotoChange request db db' d := by
  obtain ⟨env, path, actor, now, op⟩ := request
  cases op with
  | acknowledgeStopNotes notesHash =>
      obtain ⟨acks, rfl⟩ := acknowledgeStopNotes_ok h
      exact .kept rfl rfl
  | scanStopPackage scanValue => exact photoChange_of_packagesOnly (scanStopPackage_ok h).1
  | setStopPackageStatus packageId status =>
      obtain ⟨stop, e, package, st, -, -, -, -, -, -, -, -, rfl⟩ :=
        setStopPackageStatus_eq_ok.mp h
      exact photoChange_of_packagesOnly (packagesOnly_updatePackageStatus _ _ _ _)
  | setReturnStopPackagesStatusBatch packageIds status =>
      obtain ⟨stop, e, st, ordered, -, -, -, -, -, -, -, rfl⟩ :=
        setReturnStopPackagesStatusBatch_ok h
      exact photoChange_of_packagesOnly (PackagesOnly.foldl
        (fun db p => packagesOnly_updatePackageStatus db p st actor) ordered db)
  | reportMissingPackage packageId reasonCode details =>
      exact photoChange_of_packagesOnly (reportMissingPackage_ok h).1
  | createStopPodUploadUrl uploads => exact photoChange_createStopPodUploadUrl h
  | confirmStopPodPhoto imageKey => exact photoChange_confirmStopPodPhoto h
  | deleteStopPodPhoto photoId => exact photoChange_deleteStopPodPhoto rfl h
  | saveStopSignature key required =>
      obtain ⟨stop, e, -, -, hphotos, hpod⟩ := saveStopSignature_ok h
      refine .kept ?_ ?_
      · rw [ExecutionDb.photoSlots, ExecutionDb.listPodPhotos, hphotos]
        rfl
      · rw [hpod]
        split_ifs <;> rfl
  | completeStopDelivery notes =>
      obtain ⟨stop, e, -, -, -, -, -, hphotos, hpod⟩ := completeStopDelivery_ok h
      refine .kept ?_ ?_
      · rw [ExecutionDb.photoSlots, ExecutionDb.listPodPhotos, hphotos]
        rfl
      · rw [hpod]
        split_ifs <;> rfl

/-- At most five photos, distinct and counted: every accepted request keeps it. -/
theorem PhotosSound.change (h : PhotosSound db d) (hchange : PhotoChange request db db' d) :
    PhotosSound db' d := by
  cases hchange with
  | kept slots count =>
      have hlength := congrArg List.length slots
      rw [length_photoSlots, length_photoSlots] at hlength
      exact ⟨hlength ▸ h.atMost, slots ▸ h.distinct, by rw [count, hlength, h.counted]⟩
  | added k fits slots distinct count =>
      have hlength := congrArg List.length slots
      rw [length_photoSlots, List.length_append, length_photoSlots, List.length_range'] at hlength
      exact ⟨hlength ▸ fits, distinct h.distinct, count.trans hlength.symm⟩
  | removed photo stop op context mem slots count =>
      have hlength := slots.length_eq
      rw [length_photoSlots, List.length_cons, length_photoSlots] at hlength
      refine ⟨?_, (List.nodup_cons.mp (slots.nodup_iff.mp h.distinct)).2, count⟩
      have hmost := h.atMost
      omega

/-- Numbered photos stay numbered when no photo is deleted but the last one. -/
theorem numbered_change (hnumbered : Numbered (db.photoSlots d))
    (hlast : request.DeletesLast d db) (hchange : PhotoChange request db db' d) :
    Numbered (db'.photoSlots d) := by
  cases hchange with
  | kept slots count => exact slots ▸ hnumbered
  | added k fits slots distinct count =>
      rw [slots, ← length_photoSlots]
      exact hnumbered.append_next k
  | removed photo stop op context mem slots count =>
      rw [StopRequest.DeletesLast, op] at hlast
      have hmost : ∀ order ∈ db.photoSlots d, order ≤ photo.sortOrder :=
        hlast stop context photo mem rfl
      have hcons := hnumbered.of_perm slots
      refine hcons.tail_iff.mpr ?_
      have htop := hmost ((db'.photoSlots d).length + 1)
        (slots.mem_iff.mpr (hcons.mem_iff.mpr ⟨by omega, le_rfl⟩))
      have hbound := (hcons.mem_iff.mp List.mem_cons_self).2
      exact le_antisymm hbound htop

end Exec

/-! ### Room for photos -/

section Room

variable {db db' : ExecutionDb} {d : Id}

/-- Whoever adds photos to numbered ones succeeds. -/
theorem slotsOpen_of_numbered (h : Numbered (db.photoSlots d)) : SlotsOpen db d where
  upload := by
    intro env path stop uploads hctx hne hvalid hroom
    have hfree : ∀ order ∈ List.range' ((db.listPodPhotos d).length + 1) uploads.length,
        order ∉ (db.getOrCreateStopPod d).photoSlots d := by
      intro order horder hused
      have hle := (h.mem_iff.mp hused).2
      have hnext := (List.mem_range'_1.mp horder).1
      rw [length_photoSlots] at hle
      omega
    obtain ⟨db₁, hloop⟩ := exists_uploadPhotos hvalid hfree
    refine exists_bind_ok hctx (exists_raiseIf_bind_ok hne ?_)
    refine exists_raiseIf_bind_ok (not_lt.mpr (Nat.le_of_add_left_le hroom)) ?_
    refine exists_raiseIf_bind_ok (not_lt.mpr hroom) ?_
    exact exists_bind_ok hloop ⟨_, rfl⟩
  confirm := by
    intro path stop imageKey hctx hroom
    have hfree : (db.listPodPhotos d).length + 1 ∉ (db.getOrCreateStopPod d).photoSlots d := by
      intro hused
      have hle := (h.mem_iff.mp hused).2
      rw [length_photoSlots] at hle
      omega
    obtain ⟨db₁, hphoto⟩ := exists_createPodPhoto imageKey hfree
    refine exists_bind_ok hctx (exists_raiseIf_bind_ok (not_le.mpr hroom) ?_)
    split_ifs
    · exact ⟨_, rfl⟩
    · exact exists_bind_ok hphoto ⟨_, rfl⟩

/-- A file that may be uploaded. -/
def plainPhoto : UploadFile := ⟨none, some "image/jpeg", 0⟩

theorem plainPhoto_valid : plainPhoto.Valid plainEnv :=
  ⟨by decide +kernel, by decide, "cf-image-1", rfl⟩

/-- When the next sort order is in use, the next photo is refused, although it fits. -/
theorem not_slotsOpen {path : StopPath} {stop : RouteStop}
    (hctx : resolveExecutionContext db path = .ok (stop, d))
    (hroom : (db.listPodPhotos d).length + 1 ≤ maxPodPhotos)
    (hused : (db.listPodPhotos d).length + 1 ∈ db.photoSlots d) : ¬ SlotsOpen db d := by
  intro hopen
  have hvalid : ∀ upload ∈ [plainPhoto], upload.Valid plainEnv :=
    List.forall_mem_singleton.mpr plainPhoto_valid
  obtain ⟨db', h⟩ := hopen.upload plainEnv path stop [plainPhoto] hctx (List.cons_ne_nil _ _)
    hvalid hroom
  obtain ⟨⟨stop', d'⟩, hctx', h⟩ := bind_eq_ok.mp h
  obtain ⟨rfl, rfl⟩ := Prod.mk.inj (Except.ok.inj (hctx'.symm.trans hctx))
  replace h := ok_of_check h
  replace h := ok_of_check h
  replace h := ok_of_check h
  obtain ⟨db₁, hloop, -⟩ := bind_eq_ok.mp h
  replace hloop := ok_of_check hloop
  replace hloop := ok_of_check hloop
  obtain ⟨imageId, -, hloop⟩ := bind_eq_ok.mp hloop
  obtain ⟨db₂, hphoto, -⟩ := bind_eq_ok.mp hloop
  exact (photoSlots_createPodPhoto hphoto).1 hused

/-- After a deletion that is not the last photo's there is room, but no next sort order. -/
theorem not_slotsOpen_of_not_deletesLast {request : StopRequest} (hsound : PhotosSound db d)
    (hnumbered : Numbered (db.photoSlots d)) (hlast : ¬ request.DeletesLast d db) :
    ¬ SlotsOpen (request.step db) d := by
  obtain ⟨env, path, actor, now, op⟩ := request
  cases op with
  | deleteStopPodPhoto photoId =>
      simp only [StopRequest.DeletesLast, not_forall] at hlast
      obtain ⟨stop, hctx, photo, hmem, rfl, order, horder, hlater⟩ := hlast
      obtain ⟨db', hok⟩ := exists_deleteStopPodPhoto hctx hmem
      have hstep : StopRequest.step db ⟨env, path, actor, now, .deleteStopPodPhoto photo.id⟩
          = db' := congrArg (settle db) hok
      rw [hstep]
      -- The request is at this stop, and the photo is the one with that key.
      obtain ⟨stop', e, photo', hctx', hmem', hid, hsame, hslots, -, -⟩ :=
        deleteStopPodPhoto_slots hok
      obtain ⟨rfl, rfl⟩ := Prod.mk.inj (Except.ok.inj (hctx'.symm.trans hctx))
      obtain rfl := db.podPhotos.eq_of_key (List.mem_of_mem_filter hmem')
        (List.mem_of_mem_filter hmem) hid
      have hcons := hnumbered.of_perm hslots
      have hlength := hslots.length_eq
      rw [length_photoSlots, List.length_cons] at hlength
      have hne : photo'.sortOrder ≠ (db'.photoSlots e).length + 1 := by
        have hle := (hnumbered.mem_iff.mp horder).2
        rw [length_photoSlots] at hle
        omega
      have hused := hcons.next_mem hne
      rw [length_photoSlots] at hused hlength
      refine not_slotsOpen ((hsame path).trans hctx) ?_ hused
      have hmost := hsound.atMost
      omega
  | _ => exact absurd trivial hlast

end Room

/-! ### Runs -/

theorem photosSound_step {db : ExecutionDb} {d : Id} (h : PhotosSound db d)
    (request : StopRequest) : PhotosSound (request.step db) d := by
  unfold StopRequest.step
  cases hexec : request.exec db with
  | error e => exact h
  | ok db' => exact h.change (photoChange_exec hexec)

/-- **Never more than five photos, never one sort order twice, never miscounted**, whatever the
drivers ask for. -/
theorem photosSound_run {db : ExecutionDb} {d : Id} (h : PhotosSound db d)
    (requests : List StopRequest) : PhotosSound (Runs.run StopRequest.step db requests) d :=
  Runs.run_invariant (I := fun db => PhotosSound db d)
    (fun _ request hold => photosSound_step hold request) h requests

theorem numbered_step {db : ExecutionDb} {d : Id} {request : StopRequest}
    (h : Numbered (db.photoSlots d)) (hlast : request.DeletesLast d db) :
    Numbered ((request.step db).photoSlots d) := by
  unfold StopRequest.step
  cases hexec : request.exec db with
  | error e => exact h
  | ok db' => exact numbered_change h hlast (photoChange_exec hexec)

/-- **The slots of a delivery stop.** Start with photos numbered from one on, for example with
none. In every state of a run there are at most five of them, with different sort orders, and
counted, and whoever adds valid photos that fit succeeds, exactly if no accepted request of the
run deletes a photo of the stop that is not its last one. -/
theorem photo_slots_open_iff {db : ExecutionDb} {d : Id} (hsound : PhotosSound db d)
    (hnumbered : Numbered (db.photoSlots d)) (requests : List StopRequest) :
    (∀ pre post, requests = pre ++ post →
        PhotosSound (Runs.run StopRequest.step db pre) d ∧
          SlotsOpen (Runs.run StopRequest.step db pre) d) ↔
      Runs.Along StopRequest.step (fun db request => request.DeletesLast d db) db requests := by
  refine Runs.forall_prefix_iff_along_of_keeps
    (I := fun db => PhotosSound db d ∧ Numbered (db.photoSlots d))
    (M := fun db => PhotosSound db d ∧ SlotsOpen db d) ?_ ?_ ?_ ⟨hsound, hnumbered⟩
  · exact fun db hold => ⟨hold.1, slotsOpen_of_numbered hold.2⟩
  · exact fun db request hold hlast =>
      ⟨photosSound_step hold.1 request, numbered_step hold.2 hlast⟩
  · exact fun db request hold hlast hafter =>
      not_slotsOpen_of_not_deletesLast hold.1 hold.2 hlast hafter.2

/-! ### Two photos -/

/-- A delivery stop without photos. -/
def noPhotosDb : ExecutionDb := oneStopDb .delivery .empty

theorem noPhotosDb_sound : PhotosSound noPhotosDb 1 := ⟨by decide, by decide, by decide⟩

/-- Two photos are taken, and the second is deleted. -/
def lastPhotoDeleted : List StopRequest :=
  [stopRequest (.createStopPodUploadUrl [plainPhoto, plainPhoto]),
    stopRequest (.deleteStopPodPhoto 2)]

/-- Whoever adds photos after that succeeds. -/
theorem lastPhotoDeleted_open :
    PhotosSound (Runs.run StopRequest.step noPhotosDb lastPhotoDeleted) 1 ∧
      SlotsOpen (Runs.run StopRequest.step noPhotosDb lastPhotoDeleted) 1 := by
  refine (photo_slots_open_iff noPhotosDb_sound .nil lastPhotoDeleted).mpr ⟨trivial, ?_, trivial⟩
    lastPhotoDeleted [] rfl
  have hlast : ∀ photo ∈ (StopRequest.step noPhotosDb
      (stopRequest (.createStopPodUploadUrl [plainPhoto, plainPhoto]))).listPodPhotos 1,
      photo.id = 2 → ∀ order ∈ (StopRequest.step noPhotosDb
        (stopRequest (.createStopPodUploadUrl [plainPhoto, plainPhoto]))).photoSlots 1,
        order ≤ photo.sortOrder := by decide +kernel
  exact fun stop _ => hlast

/-- Two photos are taken, and the first is deleted. -/
def firstPhotoDeleted : List StopRequest :=
  [stopRequest (.createStopPodUploadUrl [plainPhoto, plainPhoto]),
    stopRequest (.deleteStopPodPhoto 1)]

/-- **A jammed stop**: one photo is left, it has the second sort order, and the next photo is
refused. -/
theorem deleted_photo_jams_stop :
    (Runs.run StopRequest.step noPhotosDb firstPhotoDeleted).photoSlots 1 = [2] ∧
      (confirmStopPodPhoto (Runs.run StopRequest.step noPhotosDb firstPhotoDeleted) ⟨1, 1, 1⟩
        "cf-image-2").isOk = false ∧
      ¬ SlotsOpen (Runs.run StopRequest.step noPhotosDb firstPhotoDeleted) 1 := by
  have hslots : (Runs.run StopRequest.step noPhotosDb firstPhotoDeleted).photoSlots 1 = [2] := by
    decide +kernel
  have hlength : ((Runs.run StopRequest.step noPhotosDb firstPhotoDeleted).listPodPhotos
      1).length = 1 := by
    rw [← length_photoSlots, hslots]
    rfl
  have hctx : resolveExecutionContext (Runs.run StopRequest.step noPhotosDb firstPhotoDeleted)
      ⟨1, 1, 1⟩ = .ok (⟨1, 1, some 1, some 1, .arrived, .delivery, none, none⟩, 1) := by
    rw [resolveExecutionContext_eq_ok]
    exact ⟨exists_eq_ok (by decide +kernel), by decide +kernel, rfl⟩
  refine ⟨hslots, by decide +kernel, not_slotsOpen hctx ?_ ?_⟩
  · rw [hlength]
    decide
  · rw [hlength, hslots]
    exact List.mem_singleton_self 2

end SwCouriers
