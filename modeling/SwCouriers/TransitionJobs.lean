import Mathlib.Logic.Function.Basic
import SwCouriers.Lib.Runs
import SwCouriers.StatusAutomationRules

/-!
# The Jobs of Status Transitions

A status transition is recorded as a row of an event table, and a job tells the status automation
about it. `_append_order_status_event` and `_append_delivery_stop_status_event` add the row to the
session and enqueue the job at once; `update_package_status` writes the session to the database in
between. The identifier of a row is the default of its column, which the ORM draws when it writes
the row. So the jobs of orders and stops carry no identifier, and since the identifier of the job
is made of it, the queue takes the second one for a repetition of the first one.

## Main results

* `Sound.step`: the jobs stay as they should while no row is reported before it is written.
* `jobs_carry_ids_iff`: the jobs of a run are right exactly if every transition of an order or of
  a stop is one that is not reported at all.
-/

namespace SwCouriers.TransitionJobs

open StatusAutomationRules (EntityType)

/-! ### The session and the queue -/

/-- `Order`. -/
structure Order where
  id : Id
  organizationId : Id
  deriving DecidableEq, Repr

/-- `DeliveryStop`. -/
structure DeliveryStop where
  id : Id
  orderId : Id
  deriving DecidableEq, Repr

/-- `Package`. -/
structure Package where
  id : Id
  orderId : Id
  deliveryStopId : Option Id
  status : String
  deriving DecidableEq, Repr

/-- `OrderEvent`, `DeliveryStopEvent` and `PackageEvent`. The column `id` has no value until the
row is written. -/
structure EventRow where
  id : Option Id
  entityType : EntityType
  entityId : Id
  fromStatus : Option String
  toStatus : String
  actorUserId : Option Id
  deriving DecidableEq, Repr

/-- A job `EVALUATE_STATUS_AUTOMATION_RULES`. The two identifiers are the texts `None` and
`status-auto:None` when the row has none. `transition` is the place of the row that it is about. -/
structure AutomationJob where
  transition : ℕ
  jobId : Option Id
  eventId : Option Id
  organizationId : Id
  entityType : EntityType
  entityId : Id
  orderId : Id
  deliveryStopId : Option Id
  fromStatus : Option String
  toStatus : String
  actorUserId : Option Id
  deriving DecidableEq, Repr

/-- The rows of the database, the event rows in the order in which they were added to the session,
the jobs that the queue has taken, and those that it has discarded. -/
structure Store where
  orders : Id → Option Order
  stops : Id → Option DeliveryStop
  packages : Id → Option Package
  rows : List EventRow
  jobs : List AutomationJob
  dropped : List AutomationJob

/-- No transition yet. -/
def Store.initial (orders : Id → Option Order) (stops : Id → Option DeliveryStop)
    (packages : Id → Option Package) : Store :=
  ⟨orders, stops, packages, [], [], []⟩

/-- The default of the column `id`, drawn when a row is written: the number of the row, so that no
two rows get the same one. -/
def EventRow.written (i : ℕ) (row : EventRow) : EventRow :=
  { row with id := some (row.id.getD i) }

/-- `session.flush`, and every commit. -/
def Store.flush (s : Store) : Store :=
  { s with rows := s.rows.mapIdx EventRow.written }

/-- `session.add`, with the row that is not written yet. -/
def Store.add (s : Store) (row : EventRow) : Store :=
  { s with rows := s.rows ++ [row] }

/-- A package is written back. -/
def Store.setPackage (s : Store) (p : Package) : Store :=
  { s with packages := Function.update s.packages p.id (some p) }

/-- `enqueue`, which gives up when Redis is down. The queue discards a job whose identifier it
knows. -/
def Store.enqueue (s : Store) (job : AutomationJob) (redisUp : Bool) : Store :=
  if redisUp = false then s
  else if job.jobId ∈ s.jobs.map AutomationJob.jobId then
    { s with dropped := s.dropped ++ [job] }
  else { s with jobs := s.jobs ++ [job] }

/-- The job about the row that was added last, as the caller finds it in the session. -/
def Store.jobFor (s : Store) (row : EventRow) (organizationId orderId : Id)
    (deliveryStopId : Option Id) : AutomationJob :=
  let id := s.rows.getLast?.bind EventRow.id
  { transition := s.rows.length - 1
    jobId := id
    eventId := id
    organizationId := organizationId
    entityType := row.entityType
    entityId := row.entityId
    orderId := orderId
    deliveryStopId := deliveryStopId
    fromStatus := row.fromStatus
    toStatus := row.toStatus
    actorUserId := row.actorUserId }

/-! ### Recording transitions -/

/-- `record_order_transition`, `record_delivery_stop_transition` and `record_package_transition`. -/
def newRow (entityType : EntityType) (entityId : Id) (fromStatus : Option String)
    (toStatus : String) (actorUserId : Option Id) : EventRow :=
  ⟨none, entityType, entityId, fromStatus, toStatus, actorUserId⟩

/-- `_append_order_status_event`. -/
def appendOrderStatusEvent (s : Store) (orderId : Id) (fromStatus : Option String)
    (toStatus : String) (actorUserId : Option Id) (suppressAutomation redisUp : Bool) : Store :=
  let row := newRow .bookingOrder orderId fromStatus toStatus actorUserId
  let s := s.add row
  if suppressAutomation = true then s
  else match s.orders orderId with
    | none => s
    | some order => s.enqueue (s.jobFor row order.organizationId order.id none) redisUp

/-- `get_stop_with_order`. -/
def Store.getStopWithOrder (s : Store) (stopId : Id) : Option (DeliveryStop × Order) :=
  (s.stops stopId).bind fun stop => (s.orders stop.orderId).map fun order => (stop, order)

/-- `_append_delivery_stop_status_event`. -/
def appendDeliveryStopStatusEvent (s : Store) (deliveryStopId : Id) (fromStatus : Option String)
    (toStatus : String) (actorUserId : Option Id) (suppressAutomation redisUp : Bool) : Store :=
  let row := newRow .deliveryStop deliveryStopId fromStatus toStatus actorUserId
  let s := s.add row
  if suppressAutomation = true then s
  else match s.getStopWithOrder deliveryStopId with
    | none => s
    | some (stop, order) =>
        s.enqueue (s.jobFor row order.organizationId order.id (some stop.id)) redisUp

/-- `update_package_status`. -/
def updatePackageStatus (s : Store) (package : Package) (status : String)
    (actorUserId : Option Id) (suppressAutomation redisUp : Bool) : Store :=
  if package.status = status then s.flush
  else
    let row := newRow .package package.id (some package.status) status actorUserId
    let s := ((s.setPackage { package with status := status }).add row).flush
    if suppressAutomation = true then s
    else match s.orders package.orderId with
      | none => s
      | some order =>
          s.enqueue (s.jobFor row order.organizationId package.orderId package.deliveryStopId)
            redisUp

/-- What happens in the sessions: a transition is recorded, the pending rows are written, or other
code writes orders, stops and packages. -/
inductive Op where
  | orderTransition (orderId : Id) (fromStatus : Option String) (toStatus : String)
      (actorUserId : Option Id) (suppressAutomation redisUp : Bool)
  | stopTransition (deliveryStopId : Id) (fromStatus : Option String) (toStatus : String)
      (actorUserId : Option Id) (suppressAutomation redisUp : Bool)
  | packageTransition (packageId : Id) (status : String) (actorUserId : Option Id)
      (suppressAutomation redisUp : Bool)
  | flush
  | others (orders : Id → Option Order) (stops : Id → Option DeliveryStop)
      (packages : Id → Option Package)

/-- One step. -/
def step (s : Store) : Op → Store
  | .orderTransition orderId fromStatus toStatus actor suppress redisUp =>
      appendOrderStatusEvent s orderId fromStatus toStatus actor suppress redisUp
  | .stopTransition stopId fromStatus toStatus actor suppress redisUp =>
      appendDeliveryStopStatusEvent s stopId fromStatus toStatus actor suppress redisUp
  | .packageTransition packageId status actor suppress redisUp =>
      match s.packages packageId with
      | none => s
      | some package => updatePackageStatus s package status actor suppress redisUp
  | .flush => s.flush
  | .others orders stops packages =>
      { s with orders := orders, stops := stops, packages := packages }

/-! ### What the jobs should be -/

/-- A job carries the identifier that its row has in the database, and says what the row says. -/
def AutomationJob.About (job : AutomationJob) (row : EventRow) : Prop :=
  ∃ id, row.id = some id ∧ job.eventId = some id ∧ job.jobId = some id ∧
    job.entityType = row.entityType ∧ job.entityId = row.entityId ∧
    job.fromStatus = row.fromStatus ∧ job.toStatus = row.toStatus ∧
    job.actorUserId = row.actorUserId

/-- Every job that was enqueued is in the queue, under an identifier of its own, and carries the
identifier of its row. -/
structure Reached (s : Store) : Prop where
  kept : s.dropped = []
  distinct : (s.jobs.map AutomationJob.jobId).Nodup
  carries : ∀ job ∈ s.jobs, ∃ row, s.rows[job.transition]? = some row ∧ job.About row

/-- The transition is one of a package, or it is not reported: automation is suppressed for it,
there is no order to report it for, or Redis is down. -/
def Op.ReportsWritten (s : Store) : Op → Prop
  | .orderTransition orderId _ _ _ suppress redisUp =>
      suppress = true ∨ s.orders orderId = none ∨ redisUp = false
  | .stopTransition stopId _ _ _ suppress redisUp =>
      suppress = true ∨ s.getStopWithOrder stopId = none ∨ redisUp = false
  | _ => True

/-- The jobs are right, and the written rows have the identifiers that were drawn for them. -/
structure Sound (s : Store) : Prop extends Reached s where
  drawn : ∀ (i : ℕ) (row : EventRow), s.rows[i]? = some row → row.id = none ∨ row.id = some i

theorem sound_initial (orders : Id → Option Order) (stops : Id → Option DeliveryStop)
    (packages : Id → Option Package) : Sound (.initial orders stops packages) where
  kept := rfl
  distinct := List.nodup_nil
  carries := fun job hjob => absurd hjob List.not_mem_nil
  drawn := fun _ _ h => absurd h (by simp [Store.initial])

/-! ### What the parts of an operation keep -/

@[simp] theorem jobFor_add (s : Store) (row : EventRow) (organizationId orderId : Id)
    (stopId : Option Id) :
    ((s.add row).jobFor row organizationId orderId stopId).eventId = row.id := by
  simp [Store.jobFor, Store.add]

theorem getElem?_flush (s : Store) (i : ℕ) :
    s.flush.rows[i]? = (s.rows[i]?).map (EventRow.written i) := by
  simp [Store.flush]

/-- A row that is written already stays as it is. -/
theorem written_of_some {i : ℕ} {row : EventRow} {id : Id} (h : row.id = some id) :
    row.written i = row := by
  cases row
  obtain rfl : _ = some id := h
  rfl

variable {s : Store} {fromStatus : Option String} {toStatus : String} {actor : Option Id}
  {suppress redisUp : Bool}

theorem Sound.add (h : Sound s) {row : EventRow} (hrow : row.id = none) : Sound (s.add row) where
  kept := h.kept
  distinct := h.distinct
  carries := by
    intro job hjob
    obtain ⟨r, hr, habout⟩ := h.carries job hjob
    exact ⟨r, (List.getElem?_append_left (List.getElem?_eq_some_iff.mp hr).1).trans hr, habout⟩
  drawn := by
    intro i r hr
    rw [Store.add, List.getElem?_append] at hr
    split_ifs at hr
    · exact h.drawn i r hr
    · exact .inl (List.mem_singleton.mp (List.mem_of_getElem? hr) ▸ hrow)

theorem Sound.flush (h : Sound s) : Sound s.flush where
  kept := h.kept
  distinct := h.distinct
  carries := by
    intro job hjob
    obtain ⟨row, hrow, id, hid, hsays⟩ := h.carries job hjob
    refine ⟨row, ?_, id, hid, hsays⟩
    rw [getElem?_flush, hrow, Option.map_some, written_of_some hid]
  drawn := by
    intro i r hr
    rw [getElem?_flush] at hr
    obtain ⟨row, hrow, rfl⟩ := Option.map_eq_some_iff.mp hr
    refine .inr ?_
    rcases h.drawn i row hrow with hid | hid <;> simp [EventRow.written, hid]

/-- The identifiers of the jobs are those of rows that were added before. -/
theorem Sound.jobId_lt (h : Sound s) {job : AutomationJob} (hjob : job ∈ s.jobs) :
    ∃ id, job.jobId = some id ∧ id < s.rows.length := by
  obtain ⟨row, hrow, id, hid, -, hjobId, -⟩ := h.carries job hjob
  refine ⟨id, hjobId, ?_⟩
  rcases h.drawn _ row hrow with hnone | hdrawn
  · rw [hnone] at hid
    exact absurd hid (by simp)
  · obtain rfl : job.transition = id := Option.some.inj (hdrawn.symm.trans hid)
    exact (List.getElem?_eq_some_iff.mp hrow).1

/-- A job about a written row that no other job is about. -/
theorem Sound.enqueue (h : Sound s) {job : AutomationJob} (row : EventRow)
    (hrow : s.rows[job.transition]? = some row) (habout : job.About row)
    (hnew : ∀ job' ∈ s.jobs, job'.jobId ≠ job.jobId) (redisUp : Bool) :
    Sound (s.enqueue job redisUp) := by
  have hfresh : job.jobId ∉ s.jobs.map AutomationJob.jobId := by
    intro hmem
    obtain ⟨job', hjob', heq⟩ := List.mem_map.mp hmem
    exact hnew job' hjob' heq
  unfold Store.enqueue
  split_ifs
  · exact h
  · refine ⟨⟨h.kept, ?_, ?_⟩, h.drawn⟩
    · simp only [List.map_append, List.map_cons, List.map_nil]
      exact List.nodup_append.mpr ⟨h.distinct, List.nodup_singleton _, fun a ha b hb heq =>
        hfresh (List.mem_singleton.mp hb ▸ heq ▸ ha)⟩
    · intro job' hjob'
      rcases List.mem_append.mp hjob' with hjob' | hjob'
      · exact h.carries job' hjob'
      · obtain rfl := List.mem_singleton.mp hjob'
        exact ⟨row, hrow, habout⟩

/-- A job without an identifier spoils the queue, whether it is taken or discarded. -/
theorem not_reached_enqueue {job : AutomationJob} (hjob : job.eventId = none) :
    ¬ Reached (s.enqueue job true) := by
  unfold Store.enqueue
  simp only [Bool.true_eq_false, if_false]
  split_ifs
  · intro h
    exact absurd h.kept (by simp)
  · intro h
    obtain ⟨row, -, id, -, hid, -⟩ := h.carries job (List.mem_append_right _ (by simp))
    rw [hjob] at hid
    exact absurd hid (by simp)

/-! ### The operations -/

/-- A transition of an order that is not reported only adds the row. -/
theorem appendOrderStatusEvent_quiet {orderId : Id}
    (h : suppress = true ∨ s.orders orderId = none ∨ redisUp = false) :
    appendOrderStatusEvent s orderId fromStatus toStatus actor suppress redisUp
      = s.add (newRow .bookingOrder orderId fromStatus toStatus actor) := by
  unfold appendOrderStatusEvent
  split_ifs with hsuppress
  · rfl
  · rcases h.resolve_left hsuppress with hnone | hdown
    · simp only [Store.add, hnone]
    · simp only [Store.enqueue, hdown, if_true]
      split <;> rfl

/-- A transition of an order that is reported enqueues a job without an identifier. -/
theorem appendOrderStatusEvent_reports {orderId : Id}
    (h : ¬ (suppress = true ∨ s.orders orderId = none ∨ redisUp = false)) :
    ¬ Reached (appendOrderStatusEvent s orderId fromStatus toStatus actor suppress redisUp) := by
  obtain ⟨hsuppress, horder, hup⟩ : ¬ suppress = true ∧ ¬ s.orders orderId = none ∧
      ¬ redisUp = false := by simpa only [not_or] using h
  obtain ⟨order, horder⟩ := Option.ne_none_iff_exists'.mp horder
  obtain rfl : redisUp = true := by simpa using hup
  unfold appendOrderStatusEvent
  simp only [if_neg hsuppress, Store.add, horder]
  exact not_reached_enqueue (jobFor_add s _ _ _ _)

/-- A transition of a stop that is not reported only adds the row. -/
theorem appendDeliveryStopStatusEvent_quiet {stopId : Id}
    (h : suppress = true ∨ s.getStopWithOrder stopId = none ∨ redisUp = false) :
    appendDeliveryStopStatusEvent s stopId fromStatus toStatus actor suppress redisUp
      = s.add (newRow .deliveryStop stopId fromStatus toStatus actor) := by
  unfold appendDeliveryStopStatusEvent
  have hfind : ∀ row, (s.add row).getStopWithOrder stopId = s.getStopWithOrder stopId :=
    fun _ => rfl
  split_ifs with hsuppress
  · rfl
  · rcases h.resolve_left hsuppress with hnone | hdown
    · simp only [hfind, hnone]
    · simp only [Store.enqueue, hdown, if_true]
      split <;> rfl

/-- A transition of a stop that is reported enqueues a job without an identifier. -/
theorem appendDeliveryStopStatusEvent_reports {stopId : Id}
    (h : ¬ (suppress = true ∨ s.getStopWithOrder stopId = none ∨ redisUp = false)) :
    ¬ Reached
      (appendDeliveryStopStatusEvent s stopId fromStatus toStatus actor suppress redisUp) := by
  obtain ⟨hsuppress, hstop, hup⟩ : ¬ suppress = true ∧ ¬ s.getStopWithOrder stopId = none ∧
      ¬ redisUp = false := by simpa only [not_or] using h
  obtain ⟨⟨stop, order⟩, hstop⟩ := Option.ne_none_iff_exists'.mp hstop
  obtain rfl : redisUp = true := by simpa using hup
  have hfind : ∀ row, (s.add row).getStopWithOrder stopId = some (stop, order) := fun _ => hstop
  unfold appendDeliveryStopStatusEvent
  simp only [if_neg hsuppress, hfind]
  exact not_reached_enqueue (jobFor_add s _ _ _ _)

/-- The row that was added last, after it is written. -/
theorem getElem?_flush_add (s : Store) (row : EventRow) :
    (s.add row).flush.rows[s.rows.length]? = some (row.written s.rows.length) := by
  rw [getElem?_flush]
  simp [Store.add]

/-- After the row is written the caller finds its identifier, and nobody else has it. -/
theorem Sound.enqueue_written (h : Sound s) {row : EventRow} (hrow : row.id = none)
    (organizationId orderId : Id) (stopId : Option Id) (redisUp : Bool) :
    Sound ((s.add row).flush.enqueue
      ((s.add row).flush.jobFor row organizationId orderId stopId) redisUp) := by
  have hlength : (s.add row).flush.rows.length = s.rows.length + 1 := by
    simp [Store.flush, Store.add]
  have hlast : (s.add row).flush.rows.getLast?.bind EventRow.id = some s.rows.length := by
    rw [List.getLast?_eq_getElem?, hlength, Nat.add_sub_cancel, getElem?_flush_add]
    simp [EventRow.written, hrow]
  refine (h.add hrow).flush.enqueue (row.written s.rows.length) ?_ ?_ ?_ redisUp
  · have htransition : (s.add row).flush.rows.length - 1 = s.rows.length := by omega
    exact (congrArg ((s.add row).flush.rows[·]?) htransition).trans (getElem?_flush_add s row)
  · exact ⟨s.rows.length, by simp [EventRow.written, hrow], hlast, hlast, rfl, rfl, rfl, rfl, rfl⟩
  · intro job hjob heq
    obtain ⟨id, hid, hlt⟩ := h.jobId_lt hjob
    have hsame : some id = some s.rows.length := hid.symm.trans (heq.trans hlast)
    exact absurd (Option.some.inj hsame) hlt.ne

/-- A transition of a package enqueues its job after the row is written. -/
theorem Sound.updatePackageStatus (h : Sound s) (package : Package) (status : String)
    (actor : Option Id) (suppress redisUp : Bool) :
    Sound (updatePackageStatus s package status actor suppress redisUp) := by
  have hset : Sound (s.setPackage { package with status := status }) :=
    ⟨⟨h.kept, h.distinct, h.carries⟩, h.drawn⟩
  unfold TransitionJobs.updatePackageStatus
  split_ifs with hsame hsuppress
  · exact h.flush
  · exact (hset.add rfl).flush
  · simp only []
    split
    · exact (hset.add rfl).flush
    · exact hset.enqueue_written rfl _ _ _ redisUp

/-! ### The runs -/

/-- **One operation** keeps the jobs right while it reports no row before it is written. -/
theorem Sound.step {op : Op} (h : Sound s) (hop : op.ReportsWritten s) : Sound (step s op) := by
  cases op with
  | orderTransition orderId fromStatus toStatus actor suppress redisUp =>
      exact (congrArg Sound (appendOrderStatusEvent_quiet hop)).mpr (h.add rfl)
  | stopTransition stopId fromStatus toStatus actor suppress redisUp =>
      exact (congrArg Sound (appendDeliveryStopStatusEvent_quiet hop)).mpr (h.add rfl)
  | packageTransition packageId status actor suppress redisUp =>
      simp only [TransitionJobs.step]
      split
      · exact h
      · exact h.updatePackageStatus _ status actor suppress redisUp
  | flush => exact h.flush
  | others orders stops packages => exact ⟨⟨h.kept, h.distinct, h.carries⟩, h.drawn⟩

/-- A row that is reported before it is written spoils the jobs. -/
theorem not_reached_step {op : Op} (hop : ¬ op.ReportsWritten s) : ¬ Reached (step s op) := by
  cases op with
  | orderTransition => exact appendOrderStatusEvent_reports hop
  | stopTransition => exact appendDeliveryStopStatusEvent_reports hop
  | _ => exact absurd trivial hop

/-- **When transitions reach the automation.** In a run of transitions, every job that is enqueued
is taken by the queue under an identifier of its own, and carries the identifier that its row has
in the database, exactly if every transition of an order or of a stop is one for which nothing is
enqueued: automation is suppressed, the order is missing, or Redis is down. -/
theorem jobs_carry_ids_iff (orders : Id → Option Order) (stops : Id → Option DeliveryStop)
    (packages : Id → Option Package) (ops : List Op) :
    (∀ pre post, ops = pre ++ post →
        Reached (Runs.run step (.initial orders stops packages) pre)) ↔
      Runs.Along step (fun s op => op.ReportsWritten s) (.initial orders stops packages) ops :=
  Runs.forall_prefix_iff_along_of_keeps (fun _ h => h.toReached) (fun _ _ h hop => h.step hop)
    (fun _ _ _ hop => not_reached_step hop) (sound_initial orders stops packages)

/-! ### Two orders -/

/-- Two orders of one organisation, with a stop each. -/
def twoOrders : Store :=
  .initial (fun id => if id < 2 then some ⟨id, 7⟩ else none)
    (fun id => if id < 2 then some ⟨id, id⟩ else none) (fun _ => none)

/-- Both are created, one after the other. -/
def bothCreated : List Op :=
  [.orderTransition 0 none "PENDING_PICKUP" (some 5) false true,
    .stopTransition 0 none "PENDING_PICKUP" (some 5) false true, .flush,
    .orderTransition 1 none "PENDING_PICKUP" (some 5) false true,
    .stopTransition 1 none "PENDING_PICKUP" (some 5) false true, .flush]

/-- The job of the first order has no identifier, and the others are taken for the same job. -/
theorem later_creations_dropped :
    ¬ (∀ ops, Reached (Runs.run step twoOrders ops)) ∧
      (Runs.run step twoOrders bothCreated).jobs.map AutomationJob.eventId = [none] ∧
      (Runs.run step twoOrders bothCreated).dropped.map AutomationJob.transition = [1, 2, 3] ∧
      (Runs.run step twoOrders bothCreated).rows.map EventRow.id
        = [some 0, some 1, some 2, some 3] := by
  refine ⟨fun h => ?_, by decide, by decide, by decide⟩
  exact absurd (congrArg List.length (h bothCreated).kept) (by decide)

end SwCouriers.TransitionJobs
