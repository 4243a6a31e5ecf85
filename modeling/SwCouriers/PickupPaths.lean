import SwCouriers.StopEffects

/-!
# The Three Ways to Collect an Order

At a pickup the driver may scan the master label of the order, scan each package, or load the
order in one go with `pickup_scan_packages_for_order`. Each way should load the packages that
wait for their pickup and leave every other package alone.

All three come to `recorded`, with a different list of packages each:

* the master label loads the packages of the delivery stop that wait, and no others of the
  order;
* a scan of a package is logged and loads nothing;
* loading the order takes every package of it, whatever its status.

So each way agrees with `collected` on the orders on which its list is the right one.

## Main results

* `recorded_eq_iff`: when two lists of packages to load come to the same.
* `pickup_paths_agree`: for each of the three ways, exactly when it collects the order.
-/

namespace SwCouriers

open Checked

/-! ### What a collection should do -/

/-- A package that waits for its pickup. -/
def PackageRow.Waits (p : PackageRow) : Prop := p.status ∈ packagePrePickupForScanStatuses

instance : DecidablePred PackageRow.Waits := fun _ => inferInstanceAs (Decidable (_ ∈ _))

/-- The packages of an order that wait for their pickup. -/
def waitingFor (db : ExecutionDb) (orderId : Id) : List PackageRow :=
  (db.listForOrder orderId).filter fun p => p.Waits

/-- The packages after an order was collected: those of the order that waited are loaded, and
every other package is as it was. -/
def collected (db : ExecutionDb) (orderId : Id) : Table PackageRow.id :=
  recorded db.packages ((waitingFor db orderId).map (·.id)) .loadedForDelivery

/-- An order was collected, and none of its packages is pending for a pickup stop. -/
def Collects (db db' : ExecutionDb) (orderId : Id) : Prop :=
  db'.packages = collected db orderId ∧
    pendingPackageIdsForStopFlow .pickup (db'.listForOrder orderId) = []

section Collected

variable {db : ExecutionDb} {orderId : Id} {p : PackageRow}

theorem mem_listForOrder : p ∈ db.listForOrder orderId ↔
    p ∈ db.packages.rows ∧ p.orderId = orderId := by
  simp only [ExecutionDb.listForOrder, List.mem_filter, decide_eq_true_eq]

theorem mem_waitingFor : p ∈ waitingFor db orderId ↔
    p ∈ db.packages.rows ∧ p.orderId = orderId ∧ p.Waits := by
  simp only [waitingFor, List.mem_filter, decide_eq_true_eq, mem_listForOrder, and_assoc]

/-- A loaded package waits no longer. -/
theorem not_waits_of_loaded (h : p.status = .loadedForDelivery) : ¬ p.Waits := by
  unfold PackageRow.Waits
  rw [h]
  decide

/-- Keys are unique: a package of the table is on a list of its packages if its key is. -/
theorem id_mem_map_iff {loaded : List PackageRow} (h : ∀ q ∈ loaded, q ∈ db.packages.rows)
    (hp : p ∈ db.packages.rows) : p.id ∈ loaded.map (·.id) ↔ p ∈ loaded := by
  constructor
  · intro hid
    obtain ⟨q, hq, heq⟩ := List.mem_map.mp hid
    have hsame : q = p := Table.eq_of_key (h q hq) hp heq
    exact hsame ▸ hq
  · exact fun hmem => List.mem_map_of_mem hmem

/-- A package with the status recorded is what it was exactly if it was not listed or had the
status before. -/
theorem record_eq_self_iff {ids : List Id} {status : PackageStatus} :
    p.record ids status = p ↔ (p.id ∈ ids → p.status = status) := by
  refine ⟨fun h hid => ?_, PackageRow.record_self⟩
  rw [PackageRow.record_of_mem hid] at h
  exact (congrArg PackageRow.status h).symm

theorem record_eq_record_iff {ids jds : List Id} {status : PackageStatus} :
    p.record ids status = p.record jds status ↔
      ((p.id ∈ ids ↔ p.id ∈ jds) ∨ p.status = status) := by
  by_cases hi : p.id ∈ ids <;> by_cases hj : p.id ∈ jds
  · rw [PackageRow.record_of_mem hi, PackageRow.record_of_mem hj]
    exact iff_of_true rfl (.inl (iff_of_true hi hj))
  · rw [PackageRow.record_of_notMem hj, record_eq_self_iff]
    simp only [hi, hj, forall_const, iff_false, not_true, false_or]
  · rw [PackageRow.record_of_notMem hi, eq_comm, record_eq_self_iff]
    simp only [hi, hj, forall_const, false_iff, not_true, false_or]
  · rw [PackageRow.record_of_notMem hi, PackageRow.record_of_notMem hj]
    exact iff_of_true rfl (.inl (iff_of_false hi hj))

/-- **Two lists of packages to load come to the same** exactly if every package that is on one
of them only is loaded already. -/
theorem recorded_eq_iff {loaded loaded' : List PackageRow} {status : PackageStatus}
    (h : ∀ q ∈ loaded, q ∈ db.packages.rows) (h' : ∀ q ∈ loaded', q ∈ db.packages.rows) :
    recorded db.packages (loaded.map (·.id)) status
        = recorded db.packages (loaded'.map (·.id)) status ↔
      ∀ q ∈ db.packages.rows, (q ∈ loaded ↔ q ∈ loaded') ∨ q.status = status := by
  rw [Table.ext_iff, rows_recorded, rows_recorded, List.map_inj_left]
  refine forall_congr' fun q => forall_congr' fun hq => ?_
  rw [record_eq_record_iff, id_mem_map_iff h hq, id_mem_map_iff h' hq]

/-- After a collection no package of the order waits. -/
theorem pending_collected {db' : ExecutionDb} (h : db'.packages = collected db orderId) :
    pendingPackageIdsForStopFlow .pickup (db'.listForOrder orderId) = [] := by
  unfold pendingPackageIdsForStopFlow
  rw [List.map_eq_nil_iff, List.filter_eq_nil_iff]
  intro p hp
  obtain ⟨hrow, horder⟩ := mem_listForOrder.mp hp
  rw [h, collected, rows_recorded] at hrow
  obtain ⟨q, hq, rfl⟩ := List.mem_map.mp hrow
  rw [PackageRow.orderId_record] at horder
  have hsub : ∀ r ∈ waitingFor db orderId, r ∈ db.packages.rows :=
    fun r hr => (mem_waitingFor.mp hr).1
  have hpending : ∀ r : PackageRow, isPending .pickup r.status = true ↔ r.Waits :=
    fun r => decide_eq_true_iff
  rw [hpending]
  by_cases hwaits : q ∈ waitingFor db orderId
  · rw [PackageRow.record_of_mem ((id_mem_map_iff hsub hq).mpr hwaits)]
    exact not_waits_of_loaded rfl
  · rw [PackageRow.record_of_notMem (mt (id_mem_map_iff hsub hq).mp hwaits)]
    exact fun hw => hwaits (mem_waitingFor.mpr ⟨hq, horder, hw⟩)

/-- A way to collect is right exactly if its list of packages to load is. -/
theorem collects_iff {db' : ExecutionDb} {loaded : List PackageRow}
    (h : ∀ q ∈ loaded, q ∈ db.packages.rows)
    (hpackages : db'.packages = recorded db.packages (loaded.map (·.id)) .loadedForDelivery) :
    Collects db db' orderId ↔ ∀ q ∈ db.packages.rows,
      (q ∈ loaded ↔ q ∈ waitingFor db orderId) ∨ q.status = .loadedForDelivery := by
  rw [← recorded_eq_iff h fun q hq => (mem_waitingFor.mp hq).1]
  refine ⟨fun hcollects => hpackages.symm.trans hcollects.1, fun heq => ?_⟩
  have hcollected : db'.packages = collected db orderId := hpackages.trans heq
  exact ⟨hcollected, pending_collected hcollected⟩

end Collected

/-! ### The master label -/

/-- The master label of an order is scanned at a pickup stop: the route is the driver's, the
notes of the stop are acknowledged, the stop serves a delivery stop of the order, and no
package has the label for its reference. -/
structure LabelScan (env : DriverEnv) (db : ExecutionDb) (path : StopPath) (scanValue : String)
    (deliveryStopId orderId : Id) : Prop where
  context : ∃ stop, resolveExecutionContext db path = .ok (stop, deliveryStopId) ∧
    stop.stopFlowType = .pickup
  notes : validateNotesAckGate env db path = .ok ()
  order : (db.deliveryStops.find? deliveryStopId).map (·.orderId) = some orderId
  label : isMasterLabelOf db .pickup deliveryStopId (strip scanValue) = true
  unresolved : resolveByScanValue env db (strip scanValue) = .ok none

section Label

variable {env : DriverEnv} {db : ExecutionDb} {path : StopPath} {scanValue : String}
  {deliveryStopId orderId : Id}

/-- What the scan of a master label comes to. -/
theorem scanStopPackage_of_label (h : LabelScan env db path scanValue deliveryStopId orderId) :
    (settle db (scanStopPackage env db path scanValue)).packages
      = recorded db.packages ((toCollect db deliveryStopId).map (·.id)) .loadedForDelivery := by
  obtain ⟨⟨stop, hctx, hflow⟩, hnotes, -, hlabel, hnone⟩ := h
  have hscan : scanStopPackage env db path scanValue
      = if db.listForDeliveryStop deliveryStopId = [] then
          .error (invalid "No packages linked to this stop")
        else .ok (if toCollect db deliveryStopId = [] then
            db.createScanLog path deliveryStopId none scanValue "MASTER_LABEL_ALREADY_COLLECTED"
          else collectPackages db path deliveryStopId scanValue
            (toCollect db deliveryStopId)) := by
    have hmatch : ¬ isMasterLabelOf db .pickup deliveryStopId (strip scanValue) = false :=
      Bool.not_eq_false _ ▸ hlabel
    unfold scanStopPackage raiseIf toCollect
    simp only [hctx, hnotes, hnone, hflow, if_neg hmatch, ok_bind]
    split_ifs <;> rfl
  rw [hscan]
  by_cases hwaits : toCollect db deliveryStopId = []
  · -- Nothing waits there: the scan is refused or only logged.
    rw [if_pos hwaits, hwaits, List.map_nil,
      recorded_self fun _ _ hid => absurd hid List.not_mem_nil]
    split_ifs <;> rfl
  · have hne : db.listForDeliveryStop deliveryStopId ≠ [] := by
      intro hnil
      exact hwaits (by rw [toCollect, hnil, List.filter_nil])
    rw [if_neg hwaits, if_neg hne, settle_ok]
    exact packages_collectPackages fun p hp => (mem_toCollect.mp hp).1

/-- The master label collects the order exactly if its waiting packages are those of the
delivery stop. -/
theorem label_collects_iff (h : LabelScan env db path scanValue deliveryStopId orderId) :
    Collects db (settle db (scanStopPackage env db path scanValue)) orderId ↔
      ∀ p ∈ db.packages.rows, p.Waits →
        (p.deliveryStopId = some deliveryStopId ↔ p.orderId = orderId) := by
  rw [collects_iff (fun p hp => (mem_toCollect.mp hp).1) (scanStopPackage_of_label h)]
  refine forall_congr' fun p => forall_congr' fun hp => ?_
  rw [mem_toCollect, mem_waitingFor]
  constructor
  · intro hlists hwaits
    have hsame := hlists.resolve_right fun hloaded => not_waits_of_loaded hloaded hwaits
    exact ⟨fun hstop => (hsame.mp ⟨hp, hstop, hwaits⟩).2.1,
      fun horder => (hsame.mpr ⟨hp, horder, hwaits⟩).2.1⟩
  · intro hsame
    left
    constructor
    · rintro ⟨-, hstop, hwaits⟩
      exact ⟨hp, (hsame hwaits).mp hstop, hwaits⟩
    · rintro ⟨-, horder, hwaits⟩
      exact ⟨hp, (hsame hwaits).mpr horder, hwaits⟩

end Label

/-! ### Scans of packages -/

/-- One scan after the other, each a request of its own. -/
def scanEach (env : DriverEnv) (db : ExecutionDb) (scans : List (StopPath × String)) :
    ExecutionDb :=
  Runs.run (fun db scan => settle db (scanStopPackage env db scan.1 scan.2)) db scans

/-- A scanned text names a package. -/
def NamesPackage (env : DriverEnv) (db : ExecutionDb) (scanValue : String) : Prop :=
  ∃ p, resolveByScanValue env db (strip scanValue) = .ok (some p)

section Scans

variable {env : DriverEnv} {db : ExecutionDb}

theorem NamesPackage.congr {db' : ExecutionDb} {scanValue : String}
    (hpackages : db'.packages = db.packages) (h : NamesPackage env db scanValue) :
    NamesPackage env db' scanValue := by
  obtain ⟨p, hp⟩ := h
  refine ⟨p, ?_⟩
  unfold resolveByScanValue at hp ⊢
  rwa [hpackages]

/-- A scan of a package loads nothing. -/
theorem packages_scan_of_namesPackage (path : StopPath) {scanValue : String}
    (h : NamesPackage env db scanValue) :
    (settle db (scanStopPackage env db path scanValue)).packages = db.packages := by
  obtain ⟨p, hp⟩ := h
  cases hscan : scanStopPackage env db path scanValue with
  | error e => rfl
  | ok db' =>
      obtain ⟨⟨stop, d⟩, -, hscan⟩ := bind_eq_ok.mp hscan
      replace hscan := ok_of_check hscan
      obtain ⟨found, hfound, hscan⟩ := bind_eq_ok.mp hscan
      obtain rfl := Except.ok.inj (hp.symm.trans hfound)
      replace hscan := ok_of_check hscan
      replace hscan := ok_of_check hscan
      obtain rfl := pure_eq_ok.mp hscan
      rfl

/-- Scans of packages load nothing, however many there are and in whatever order. -/
theorem packages_scanEach {scans : List (StopPath × String)}
    (h : ∀ scan ∈ scans, NamesPackage env db scan.2) :
    (scanEach env db scans).packages = db.packages := by
  unfold scanEach
  induction scans generalizing db with
  | nil => rfl
  | cons scan scans ih =>
      obtain ⟨hscan, hrest⟩ := List.forall_mem_cons.mp h
      have hround := packages_scan_of_namesPackage scan.1 hscan
      rw [Runs.run_cons, ih fun next hnext => (hrest next hnext).congr hround, hround]

/-- Scans of packages collect the order exactly if no package of it waits. -/
theorem scans_collect_iff {scans : List (StopPath × String)} {orderId : Id}
    (h : ∀ scan ∈ scans, NamesPackage env db scan.2) :
    Collects db (scanEach env db scans) orderId ↔
      ∀ p ∈ db.packages.rows, p.orderId = orderId → ¬ p.Waits := by
  have hnone : (scanEach env db scans).packages
      = recorded db.packages (([] : List PackageRow).map (·.id)) .loadedForDelivery := by
    rw [packages_scanEach h, List.map_nil,
      recorded_self fun _ _ hid => absurd hid List.not_mem_nil]
  rw [collects_iff (fun p hp => absurd hp List.not_mem_nil) hnone]
  refine forall_congr' fun p => forall_congr' fun hp => ?_
  rw [mem_waitingFor]
  constructor
  · intro hlists horder hwaits
    have hsame := hlists.resolve_right fun hloaded => not_waits_of_loaded hloaded hwaits
    exact absurd (hsame.mpr ⟨hp, horder, hwaits⟩) List.not_mem_nil
  · intro hnot
    exact .inl (iff_of_false List.not_mem_nil fun hmem => hnot hmem.2.1 hmem.2.2)

end Scans

/-! ### Loading the order -/

/-- The whole order of a stop is loaded: the route is the driver's, the stop is linked to the
order, and no package of it is left out of the request. -/
structure OrderLoad (env : DriverEnv) (db : ExecutionDb) (path : StopPath)
    (packageIds : Option (List String)) (orderId : Id) : Prop where
  route : ∃ route, getRouteForDriverOr404 db path = .ok route
  stop : ∃ stop, getRouteStop db path = some stop ∧ stop.orderId = some orderId
  order : ∃ order, db.orders.find? orderId = some order
  whole : packageIds.getD [] = [] ∨
    ∀ p ∈ db.listForOrder orderId, env.uuid.write p.id ∈ packageIds.getD []

section Load

variable {env : DriverEnv} {db : ExecutionDb} {path : StopPath}
  {packageIds : Option (List String)} {orderId : Id}

theorem packages_loadPackage {p : PackageRow}
    (hp : Loaded db.packages .loadedForDelivery p) :
    (loadPackage env path db p).packages = recorded db.packages [p.id] .loadedForDelivery := by
  rw [← packages_updatePackageStatus (p := p) hp]
  by_cases hloaded : p.status = .loadedForDelivery
  · rw [loadPackage, if_pos hloaded, ExecutionDb.updatePackageStatus, if_pos hloaded]
  · rw [loadPackage, if_neg hloaded]
    cases p.deliveryStopId <;> rfl

/-- What loading an order comes to. -/
theorem pickupScanPackagesForOrder_whole (h : OrderLoad env db path packageIds orderId) :
    (settle db (pickupScanPackagesForOrder env db path packageIds)).packages
      = recorded db.packages ((db.listForOrder orderId).map (·.id)) .loadedForDelivery := by
  obtain ⟨⟨route, hroute⟩, ⟨stop, hstop, horderId⟩, ⟨order, horder⟩, hwhole⟩ := h
  obtain ⟨-, rfl⟩ := Table.find?_eq_some_iff.mp horder
  have hchosen : (if packageIds.getD [] = [] then db.listForOrder order.id
      else (db.listForOrder order.id).filter fun p => env.uuid.write p.id ∈ packageIds.getD [])
      = db.listForOrder order.id := by
    split_ifs with hnil
    · rfl
    · exact List.filter_eq_self.mpr fun p hp => decide_eq_true (hwhole.resolve_left hnil p hp)
  have hload : pickupScanPackagesForOrder env db path packageIds
      = if db.listForOrder order.id = [] then
          .error (invalid "No packages found for this pickup order")
        else .ok ((db.listForOrder order.id).foldl (loadPackage env path) db) := by
    unfold pickupScanPackagesForOrder
    simp only [hroute, hstop, horderId, horder, orRaise, ok_bind, hchosen]
    unfold raiseIf
    split_ifs <;> rfl
  rw [hload]
  split_ifs with hnil
  · rw [hnil, List.map_nil, recorded_self fun _ _ hid => absurd hid List.not_mem_nil]
    rfl
  · exact packages_foldl (fun _ _ hp => packages_loadPackage hp)
      fun p hp => loaded_of_mem (mem_listForOrder.mp hp).1

/-- Loading the order collects it exactly if every package of it waits or is loaded already. -/
theorem load_collects_iff (h : OrderLoad env db path packageIds orderId) :
    Collects db (settle db (pickupScanPackagesForOrder env db path packageIds)) orderId ↔
      ∀ p ∈ db.packages.rows, p.orderId = orderId →
        p.Waits ∨ p.status = .loadedForDelivery := by
  rw [collects_iff (fun p hp => (mem_listForOrder.mp hp).1)
    (pickupScanPackagesForOrder_whole h)]
  refine forall_congr' fun p => forall_congr' fun hp => ?_
  rw [mem_waitingFor, mem_listForOrder]
  constructor
  · rintro (hsame | hloaded) horder
    · exact .inl (hsame.mp ⟨hp, horder⟩).2.2
    · exact .inr hloaded
  · intro hstatus
    by_cases horder : p.orderId = orderId
    · refine (hstatus horder).imp_left fun hwaits => ?_
      exact iff_of_true ⟨hp, horder⟩ ⟨hp, horder, hwaits⟩
    · exact .inl (iff_of_false (fun hmem => horder hmem.2) fun hmem => horder hmem.2.1)

end Load

/-! ### The three ways together -/

/-- **When the pickup paths collect an order.** The master label does exactly if the waiting
packages of its delivery stop are those of the order; scans of packages do, in any number and
order, exactly if no package of the order waits; and loading the order does exactly if every
package of it waits or is loaded already. So all three do at once only where there is nothing
to collect: when every package of the order is loaded already. -/
theorem pickup_paths_agree {env : DriverEnv} {db : ExecutionDb} {orderId deliveryStopId : Id}
    {labelPath loadPath : StopPath} {label : String} {scans : List (StopPath × String)}
    {packageIds : Option (List String)}
    (hlabel : LabelScan env db labelPath label deliveryStopId orderId)
    (hscans : ∀ scan ∈ scans, NamesPackage env db scan.2)
    (hload : OrderLoad env db loadPath packageIds orderId) :
    (Collects db (settle db (scanStopPackage env db labelPath label)) orderId ↔
      ∀ p ∈ db.packages.rows, p.Waits →
        (p.deliveryStopId = some deliveryStopId ↔ p.orderId = orderId)) ∧
    (Collects db (scanEach env db scans) orderId ↔
      ∀ p ∈ db.packages.rows, p.orderId = orderId → ¬ p.Waits) ∧
    (Collects db (settle db (pickupScanPackagesForOrder env db loadPath packageIds)) orderId ↔
      ∀ p ∈ db.packages.rows, p.orderId = orderId →
        p.Waits ∨ p.status = .loadedForDelivery) ∧
    (Collects db (scanEach env db scans) orderId ∧
        Collects db (settle db (pickupScanPackagesForOrder env db loadPath packageIds)) orderId ↔
      ∀ p ∈ db.packages.rows, p.orderId = orderId → p.status = .loadedForDelivery) := by
  have hboth : Collects db (scanEach env db scans) orderId ∧
        Collects db (settle db (pickupScanPackagesForOrder env db loadPath packageIds)) orderId ↔
      ∀ p ∈ db.packages.rows, p.orderId = orderId → p.status = .loadedForDelivery := by
    rw [scans_collect_iff hscans, load_collects_iff hload]
    constructor
    · rintro ⟨hnone, hall⟩ p hp horder
      exact (hall p hp horder).resolve_left (hnone p hp horder)
    · intro hloaded
      exact ⟨fun p hp horder => not_waits_of_loaded (hloaded p hp horder),
        fun p hp horder => .inr (hloaded p hp horder)⟩
  exact ⟨label_collects_iff hlabel, scans_collect_iff hscans, load_collects_iff hload, hboth⟩

/-! ### An order with a waiting and a delivered package -/

/-- A pickup stop of an order with two packages. -/
def pickupDb (first second : PackageStatus) : ExecutionDb :=
  oneStopDb .pickup ⟨[⟨1, "PKG-00000001", 1, some 1, first⟩,
    ⟨2, "PKG-00000002", 1, some 1, second⟩], (by decide : [1, 2].Nodup)⟩

/-- The path of the stop. -/
def pickupPath : StopPath := ⟨1, 1, 1⟩

/-- The driver scans both packages. -/
def bothScans : List (StopPath × String) :=
  [(pickupPath, "PKG-00000002"), (pickupPath, "PKG-00000001")]

theorem labelScan_pickupDb (first second : PackageStatus) :
    LabelScan plainEnv (pickupDb first second) pickupPath "ML-0000000001" 1 1 where
  context := ⟨_, rfl, rfl⟩
  notes := rfl
  order := rfl
  label := rfl
  unresolved := rfl

theorem orderLoad_pickupDb (first second : PackageStatus) :
    OrderLoad plainEnv (pickupDb first second) pickupPath none 1 where
  route := ⟨_, rfl⟩
  stop := ⟨_, rfl, rfl⟩
  order := ⟨_, rfl⟩
  whole := .inl rfl

theorem namesPackage_bothScans (first second : PackageStatus) :
    ∀ scan ∈ bothScans, NamesPackage plainEnv (pickupDb first second) scan.2 := by
  simp only [bothScans, List.forall_mem_cons]
  refine ⟨⟨_, rfl⟩, ⟨_, rfl⟩, fun _ h => absurd h List.not_mem_nil⟩

/-- The same collection in three ways: the master label is right, the scans leave the waiting
package where it is, and loading the order takes the delivered package back. -/
theorem pickup_paths_differ :
    Collects (pickupDb .pendingPickup .deliveredToCustomer)
        (settle (pickupDb .pendingPickup .deliveredToCustomer) (scanStopPackage plainEnv
          (pickupDb .pendingPickup .deliveredToCustomer) pickupPath "ML-0000000001")) 1 ∧
      ¬ Collects (pickupDb .pendingPickup .deliveredToCustomer)
        (scanEach plainEnv (pickupDb .pendingPickup .deliveredToCustomer) bothScans) 1 ∧
      ¬ Collects (pickupDb .pendingPickup .deliveredToCustomer)
        (settle (pickupDb .pendingPickup .deliveredToCustomer) (pickupScanPackagesForOrder
          plainEnv (pickupDb .pendingPickup .deliveredToCustomer) pickupPath none)) 1 := by
  rw [label_collects_iff (labelScan_pickupDb _ _), scans_collect_iff (namesPackage_bothScans _ _),
    load_collects_iff (orderLoad_pickupDb _ _)]
  decide

/-- Where both packages are loaded already, every way leaves them so. -/
theorem pickup_paths_agree_when_loaded :
    Collects (pickupDb .loadedForDelivery .loadedForDelivery)
        (settle (pickupDb .loadedForDelivery .loadedForDelivery) (scanStopPackage plainEnv
          (pickupDb .loadedForDelivery .loadedForDelivery) pickupPath "ML-0000000001")) 1 ∧
      Collects (pickupDb .loadedForDelivery .loadedForDelivery)
        (scanEach plainEnv (pickupDb .loadedForDelivery .loadedForDelivery) bothScans) 1 ∧
      Collects (pickupDb .loadedForDelivery .loadedForDelivery)
        (settle (pickupDb .loadedForDelivery .loadedForDelivery) (pickupScanPackagesForOrder
          plainEnv (pickupDb .loadedForDelivery .loadedForDelivery) pickupPath none)) 1 := by
  obtain ⟨hlabel, -, -, hboth⟩ := pickup_paths_agree
    (labelScan_pickupDb .loadedForDelivery .loadedForDelivery) (namesPackage_bothScans _ _)
    (orderLoad_pickupDb _ _)
  exact ⟨hlabel.mpr (by decide), hboth.mpr (by decide)⟩

end SwCouriers
