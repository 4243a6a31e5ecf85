import SwCouriers.Lib.Batches
import SwCouriers.Lib.Spans
import SwCouriers.StopExecution

/-!
# Telematics

The points that a driver's phone sends of a route, in batches: each is stored as a location
ping, with a speeding event when it is too fast and a harsh-braking event when it is much slower
than the ping before it on the route. Within a batch the ping before is remembered under the
text of the route's key; for a text that the batch has not met the latest stored ping is asked
for, and what the batch itself adds is not stored yet.

A key has more than one text (in upper case, without its hyphens). With two texts of one route
in a batch the ping before can be missed.

## Main definitions

* `ingestDriverTelematicsBatch`: a batch.
* `OneVerdict`: for every point it makes no difference which of the pings it may be compared
  with it is compared with.

## Main results

* `ingest_cuts_agree_iff`: every way of cutting a sequence of points into batches stores the
  same events exactly if `OneVerdict` holds of it.
* `oneVerdict_of_one_text`: it holds when each route is named by one text.
-/

namespace SwCouriers.Telematics

open Checked

/-! ### Points and events -/

/-- A telemetry point. -/
structure TelemetryPoint where
  routeId : String
  occurredAt : Option Instant
  lat : Option ℚ
  lng : Option ℚ
  speedMph : Option ℚ
  heading : Option ℚ
  accuracyM : Option ℚ
  source : Option String

/-- How hard a driver braked. -/
inductive Severity where
  | low | medium | high
  deriving DecidableEq, Repr

/-- The type of an event, with what is stored in `event_metadata` for it. -/
inductive EventData where
  | locationPing (speedMph heading accuracyM : Option ℚ) (source : Option String)
  | speeding (speedMph limitMph speedOverMph : ℚ) (heading accuracyM : Option ℚ)
      (source : Option String)
  | harshBraking (startSpeedMph endSpeedMph reductionSpeedMph : ℚ) (severity : Severity)
      (heading accuracyM : Option ℚ) (source : Option String)
  /-- The events of stops and routes. -/
  | other (eventType : String)
  deriving DecidableEq

/-- A row of `route_events`. -/
structure RouteEvent where
  routeId : Id
  driverId : Option Id
  occurredAt : Instant
  lat : Option ℚ
  lng : Option ℚ
  data : EventData
  deriving DecidableEq

/-- The tables. -/
structure TelematicsDb where
  routes : Table Route.id
  routeEvents : List RouteEvent

/-- When a ping was, and the speed that it told. -/
abbrev PingState := Option (Instant × ℚ)

/-- The event is a location ping of the route. -/
def RouteEvent.IsPingOf (routeId : Id) (event : RouteEvent) : Prop :=
  event.routeId = routeId ∧
    match event.data with
    | .locationPing .. => True
    | _ => False

instance (routeId : Id) : DecidablePred (RouteEvent.IsPingOf routeId)
  | ⟨_, _, _, _, _, .locationPing ..⟩ => inferInstanceAs (Decidable (_ ∧ True))
  | ⟨_, _, _, _, _, .speeding ..⟩ => inferInstanceAs (Decidable (_ ∧ False))
  | ⟨_, _, _, _, _, .harshBraking ..⟩ => inferInstanceAs (Decidable (_ ∧ False))
  | ⟨_, _, _, _, _, .other _⟩ => inferInstanceAs (Decidable (_ ∧ False))

/-- The state that a stored ping leaves. -/
def RouteEvent.pingState (event : RouteEvent) : PingState :=
  match event.data with
  | .locationPing (some speed) .. => some (event.occurredAt, speed)
  | _ => none

/-! ### A batch -/

/-- `round(value, 1)`. -/
def roundTenth (value : ℚ) : ℚ := Decimal.roundHalfEven (value * 10) / 10

/-- `_TELEMETRY_SPEEDING_THRESHOLD_MPH`. -/
def telemetrySpeedingThresholdMph : ℚ := 70

/-- `_TELEMETRY_HARSH_BRAKE_DELTA_MPH`. -/
def telemetryHarshBrakeDeltaMph : ℚ := 15

/-- `_TELEMETRY_HARSH_BRAKE_WINDOW_SECONDS`, in microseconds. -/
def telemetryHarshBrakeWindow : ℤ := 120 * 1000000

/-- `_get_route_for_driver_or_404`, for a key that arrives as a text. -/
def getRouteForDriverOr404 (uuid : UuidText) (db : TelematicsDb) (routeId : String)
    (driverId : Id) : Except ServiceError Route := do
  let id ← orRaise (uuid.read routeId) (.uncaught "DBAPIError")
  orRaise ((db.routes.find? id).filter fun route => route.driverId = some driverId)
    (.notFound "route" (some id))

/-- What `_get_last_ping_state` asks the database for: the latest stored ping of the route. -/
def lastPingState (db : TelematicsDb) (routeId : Id) : PingState :=
  (((db.routeEvents.filter fun e => e.IsPingOf routeId).insertionSort
    fun a b => b.occurredAt ≤ a.occurredAt).head?).bind RouteEvent.pingState

/-- The state that a point leaves for the next one. -/
def TelemetryPoint.pingState (item : TelemetryPoint) (occurredAt : Instant) : PingState :=
  item.speedMph.map fun speed => (occurredAt, speed)

/-- An event of a point. -/
def TelemetryPoint.event (item : TelemetryPoint) (route driverId : Id) (occurredAt : Instant)
    (data : EventData) : RouteEvent :=
  ⟨route, some driverId, occurredAt, item.lat, item.lng, data⟩

/-- The speeding event of a point, if it is too fast. -/
def TelemetryPoint.speeding (item : TelemetryPoint) : List EventData :=
  match item.speedMph with
  | some speed =>
      if telemetrySpeedingThresholdMph < speed then
        [.speeding speed telemetrySpeedingThresholdMph
          (roundTenth (speed - telemetrySpeedingThresholdMph)) item.heading item.accuracyM
          item.source]
      else []
  | none => []

/-- How hard a drop of the speed is. -/
def severityOf (speedDrop : ℚ) : Severity :=
  if speedDrop < 25 then .low else if speedDrop < 35 then .medium else .high

/-- The harsh-braking event of a point after a ping, if there is one. -/
def TelemetryPoint.braking (item : TelemetryPoint) (occurredAt : Instant)
    (previous : PingState) : List EventData :=
  match previous, item.speedMph with
  | some (previousAt, previousSpeed), some speed =>
      let elapsed := occurredAt - previousAt
      let speedDrop := previousSpeed - speed
      if 0 ≤ elapsed ∧ elapsed ≤ telemetryHarshBrakeWindow ∧
          telemetryHarshBrakeDeltaMph ≤ speedDrop then
        [.harshBraking (roundTenth previousSpeed) (roundTenth speed) (roundTenth speedDrop)
          (severityOf speedDrop) item.heading item.accuracyM item.source]
      else []
  | _, _ => []

/-- The events of a point after a ping. -/
def TelemetryPoint.events (item : TelemetryPoint) (route driverId : Id) (occurredAt : Instant)
    (previous : PingState) : List RouteEvent :=
  (.locationPing item.speedMph item.heading item.accuracyM item.source
    :: (item.speeding ++ item.braking occurredAt previous)).map
      (item.event route driverId occurredAt)

/-- The loop over a batch, with what is remembered under each text. -/
def ingestPoints (uuid : UuidText) (db : TelematicsDb) (driverId : Id) (now : Instant) :
    (String → Option PingState) → List TelemetryPoint →
      Except ServiceError (List RouteEvent)
  | _, [] => .ok []
  | lastPingByRoute, item :: items => do
      raiseIf (item.routeId = "") (invalid "route_id is required for each telemetry point")
      let route ← getRouteForDriverOr404 uuid db item.routeId driverId
      let occurredAt := item.occurredAt.getD now
      let previous := (lastPingByRoute item.routeId).getD (lastPingState db route.id)
      let rest ← ingestPoints uuid db driverId now
        (Function.update lastPingByRoute item.routeId (some (item.pingState occurredAt))) items
      return item.events route.id driverId occurredAt previous ++ rest

/-- A batch, and when it arrives. -/
structure TelemetryBatch where
  now : Instant
  items : List TelemetryPoint

/-- `ingest_driver_telematics_batch`. -/
def ingestDriverTelematicsBatch (uuid : UuidText) (driverId : Id) (db : TelematicsDb)
    (batch : TelemetryBatch) : Except ServiceError TelematicsDb := do
  let events ← ingestPoints uuid db driverId batch.now (fun _ => none) batch.items
  return { db with routeEvents := db.routeEvents ++ events }

/-- One batch as a transaction. -/
def ingestStep (uuid : UuidText) (driverId : Id) (db : TelematicsDb) (batch : TelemetryBatch) :
    TelematicsDb :=
  settle db (ingestDriverTelematicsBatch uuid driverId db batch)

/-! ### What a point is compared with -/

section Points

variable (uuid : UuidText) (driverId : Id) (db : TelematicsDb)

/-- The state that a point with a time leaves. -/
def TelemetryPoint.state (item : TelemetryPoint) : PingState :=
  item.occurredAt.bind item.pingState

/-- The points of a route. -/
def pointsOf (routeId : Id) (points : List TelemetryPoint) : List TelemetryPoint :=
  points.filter fun p => uuid.read p.routeId = some routeId

/-- The state of the last ping of a route when the points `before` are stored. -/
def storedState (before : List TelemetryPoint) (routeId : Id) : PingState :=
  (((pointsOf uuid routeId before).getLast?).map TelemetryPoint.state).getD
    (lastPingState db routeId)

/-- What is remembered under a text when the batch began with `seen`. -/
def remembered (seen : List TelemetryPoint) (text : String) : Option PingState :=
  ((seen.filter fun p => p.routeId = text).getLast?).map TelemetryPoint.state

/-- What a point yields when `before` is stored and its batch began with `seen`. -/
def yields (before seen : List TelemetryPoint) (p : TelemetryPoint) : List RouteEvent :=
  match uuid.read p.routeId, p.occurredAt with
  | some route, some occurredAt => p.events route driverId occurredAt
      ((remembered seen p.routeId).getD (storedState uuid db before route))
  | _, _ => []

/-- Points of routes of the driver, with times that increase on each route, after all pings
that are stored of it. -/
structure Ordered (points : List TelemetryPoint) : Prop where
  owned : ∀ p ∈ points, p.routeId ≠ "" ∧ ∃ route ∈ db.routes.rows,
    uuid.read p.routeId = some route.id ∧ route.driverId = some driverId
  timed : ∀ p ∈ points, ∃ occurredAt, p.occurredAt = some occurredAt
  increasing : points.Pairwise fun p q => uuid.read p.routeId = uuid.read q.routeId →
    ∀ a ∈ p.occurredAt, ∀ b ∈ q.occurredAt, a < b
  later : ∀ p ∈ points, ∀ route, uuid.read p.routeId = some route →
    ∀ e ∈ db.routeEvents, e.IsPingOf route → ∀ a ∈ p.occurredAt, e.occurredAt < a

/-- For no point does it matter which ping it is compared with. It may be compared with an
earlier point of its route when no point in between is named by its own text, and with the
stored ping when no earlier point at all is; with each of them it brakes as hard as with the
last ping of its route before it. -/
structure OneVerdict (points : List TelemetryPoint) : Prop where
  earlier : ∀ before q between p rest route occurredAt,
    points = before ++ q :: between ++ p :: rest → p.occurredAt = some occurredAt →
    uuid.read p.routeId = some route → uuid.read q.routeId = some route →
    (∀ r ∈ between, r.routeId ≠ p.routeId) →
    p.braking occurredAt q.state
      = p.braking occurredAt (storedState uuid db (before ++ q :: between) route)
  stored : ∀ before p rest route occurredAt,
    points = before ++ p :: rest → p.occurredAt = some occurredAt →
    uuid.read p.routeId = some route → (∀ r ∈ before, r.routeId ≠ p.routeId) →
    p.braking occurredAt (lastPingState db route)
      = p.braking occurredAt (storedState uuid db before route)

end Points

/-! ### The last ping of a route -/

variable {before : List TelemetryPoint}

section Stored

variable {uuid : UuidText} {driverId : Id} {db db' : TelematicsDb}

/-- The ping of a point. -/
def TelemetryPoint.ping (item : TelemetryPoint) (route driverId : Id) (occurredAt : Instant) :
    RouteEvent :=
  item.event route driverId occurredAt
    (.locationPing item.speedMph item.heading item.accuracyM item.source)

theorem TelemetryPoint.pingState_ping (item : TelemetryPoint) (route driverId : Id)
    (occurredAt : Instant) :
    (item.ping route driverId occurredAt).pingState = item.pingState occurredAt := by
  unfold ping event RouteEvent.pingState pingState
  cases item.speedMph <;> rfl

/-- Of the events of a point only its ping is a ping. -/
theorem TelemetryPoint.filter_events (item : TelemetryPoint) (route driverId : Id)
    (occurredAt : Instant) (previous : PingState) (routeId : Id) :
    (item.events route driverId occurredAt previous).filter (fun e => e.IsPingOf routeId)
      = if route = routeId then [item.ping route driverId occurredAt] else [] := by
  have hrest : ∀ data ∈ item.speeding ++ item.braking occurredAt previous,
      ¬ (item.event route driverId occurredAt data).IsPingOf routeId := by
    intro data hdata hping
    rcases List.mem_append.mp hdata with hspeeding | hbraking
    · unfold speeding at hspeeding
      split at hspeeding
      · split_ifs at hspeeding
        · obtain rfl := List.mem_singleton.mp hspeeding
          exact hping.2
        · exact absurd hspeeding List.not_mem_nil
      · exact absurd hspeeding List.not_mem_nil
    · unfold braking at hbraking
      split at hbraking
      · dsimp only at hbraking
        split_ifs at hbraking
        · obtain rfl := List.mem_singleton.mp hbraking
          exact hping.2
        · exact absurd hbraking List.not_mem_nil
      · exact absurd hbraking List.not_mem_nil
  have hnone : ((item.speeding ++ item.braking occurredAt previous).map
      (item.event route driverId occurredAt)).filter (fun e => e.IsPingOf routeId) = [] := by
    refine List.filter_eq_nil_iff.mpr fun e he => ?_
    obtain ⟨data, hdata, rfl⟩ := List.mem_map.mp he
    exact fun hping => hrest data hdata (of_decide_eq_true hping)
  rw [events, List.map_cons, List.filter_cons, hnone]
  have hping : (item.ping route driverId occurredAt).IsPingOf routeId ↔ route = routeId :=
    ⟨fun h => h.1, fun h => ⟨h, trivial⟩⟩
  split_ifs with hdecide hroute hroute
  · rfl
  · exact absurd (hping.mp (of_decide_eq_true hdecide)) hroute
  · exact absurd (decide_eq_true (hping.mpr hroute)) hdecide
  · rfl

/-- The pings that stored points leave. -/
def pingsOf (uuid : UuidText) (driverId routeId : Id) (points : List TelemetryPoint) :
    List RouteEvent :=
  (pointsOf uuid routeId points).filterMap fun p =>
    p.occurredAt.map (p.ping routeId driverId)

instance : Std.Total fun a b : RouteEvent => b.occurredAt ≤ a.occurredAt :=
  ⟨fun _ _ => le_total _ _⟩

instance : IsTrans RouteEvent fun a b => b.occurredAt ≤ a.occurredAt :=
  ⟨fun _ _ _ hab hbc => le_trans hbc hab⟩

/-- A ping that is later than all others of its route is the last one. -/
theorem lastPingState_of_last {routeId : Id} {pings : List RouteEvent} {ping : RouteEvent}
    (hpings : db.routeEvents.filter (fun e => e.IsPingOf routeId) = pings ++ [ping])
    (hlast : ∀ e ∈ pings, e.occurredAt < ping.occurredAt) :
    lastPingState db routeId = ping.pingState := by
  have hhead : ((pings ++ [ping]).insertionSort
      fun a b => b.occurredAt ≤ a.occurredAt).head? = some ping :=
    Spans.head?_insertionSort_iff.mpr ⟨pings, [], rfl, fun e he => not_le.mpr (hlast e he),
      fun e he => absurd he List.not_mem_nil⟩
  rw [lastPingState, hpings, hhead]
  rfl

/-- The last ping of a route when some points were stored. -/
theorem lastPingState_eq {points after : List TelemetryPoint} {routeId : Id}
    (hordered : Ordered uuid driverId db points) (hpoints : points = before ++ after)
    (hstored : db'.routeEvents.filter (fun e => e.IsPingOf routeId)
      = db.routeEvents.filter (fun e => e.IsPingOf routeId)
        ++ pingsOf uuid driverId routeId before) :
    lastPingState db' routeId = storedState uuid db before routeId := by
  subst hpoints
  unfold storedState
  cases hlast : (pointsOf uuid routeId before).getLast? with
  | none =>
      rw [pingsOf, List.getLast?_eq_none_iff.mp hlast, List.filterMap_nil, List.append_nil]
        at hstored
      rw [lastPingState, hstored]
      rfl
  | some q =>
      obtain ⟨init, hinit⟩ := List.getLast?_eq_some_iff.mp hlast
      have hmem : ∀ p ∈ pointsOf uuid routeId before, p ∈ before ++ after ∧
          uuid.read p.routeId = some routeId := fun p hp =>
        ⟨List.mem_append_left _ (List.mem_of_mem_filter hp),
          of_decide_eq_true (List.mem_filter.mp hp).2⟩
      obtain ⟨hq, hqroute⟩ := hmem q (by simp [hinit])
      obtain ⟨occurredAt, htime⟩ := hordered.timed q hq
      rw [pingsOf, hinit, List.filterMap_append, List.filterMap_cons, htime, Option.map_some,
        List.filterMap_nil, ← List.append_assoc] at hstored
      rw [lastPingState_of_last hstored, TelemetryPoint.pingState_ping, Option.map_some,
        Option.getD_some, TelemetryPoint.state, htime]
      · rfl
      intro e he
      rcases List.mem_append.mp he with he | he
      · -- A ping that was there before.
        obtain ⟨hrow, hping⟩ := List.mem_filter.mp he
        exact hordered.later q hq routeId hqroute e hrow (of_decide_eq_true hping) occurredAt htime
      · -- The ping of an earlier point.
        obtain ⟨p, hp, hpe⟩ := List.mem_filterMap.mp he
        obtain ⟨a, ha, rfl⟩ := Option.map_eq_some_iff.mp hpe
        have hsub : (init ++ [q]).Sublist (before ++ after) :=
          hinit ▸ (List.filter_sublist.trans (List.sublist_append_left before after))
        have hpair := (List.pairwise_append.mp (hordered.increasing.sublist hsub)).2.2 p hp q
          (List.mem_singleton_self q)
        have hproute := (hmem p (by simp [hinit, hp])).2
        exact hpair (hproute.trans hqroute.symm) a ha occurredAt htime

theorem pingsOf_append (routeId : Id) (xs ys : List TelemetryPoint) :
    pingsOf uuid driverId routeId (xs ++ ys)
      = pingsOf uuid driverId routeId xs ++ pingsOf uuid driverId routeId ys := by
  rw [pingsOf, pointsOf, List.filter_append, List.filterMap_append]
  rfl

/-- Of what a point yields its ping is a ping, whatever it is compared with. -/
theorem filter_yields (routeId : Id) (before seen : List TelemetryPoint) (p : TelemetryPoint) :
    (yields uuid driverId db before seen p).filter (fun e => e.IsPingOf routeId)
      = pingsOf uuid driverId routeId [p] := by
  rw [pingsOf, pointsOf, List.filter_singleton]
  unfold yields
  cases hread : uuid.read p.routeId with
  | none => rfl
  | some route =>
      cases htime : p.occurredAt with
      | none => by_cases hroute : route = routeId <;> simp [hroute, htime]
      | some occurredAt =>
          dsimp only
          rw [TelemetryPoint.filter_events]
          by_cases hroute : route = routeId <;> simp [hroute, htime]

theorem filter_batch_yields (routeId : Id) (before seen items : List TelemetryPoint) :
    (Batches.batch (yields uuid driverId db) before seen items).filter
        (fun e => e.IsPingOf routeId)
      = pingsOf uuid driverId routeId items := by
  induction items generalizing seen with
  | nil => rfl
  | cons p items ih =>
      rw [Batches.batch, List.filter_append, filter_yields, ih, ← pingsOf_append]
      rfl

end Stored

/-! ### Batches -/

section Ingest

variable {uuid : UuidText} {driverId : Id} {db db' : TelematicsDb}

theorem getRouteForDriverOr404_eq_ok {text : String} {route : Route}
    (hroute : route ∈ db.routes.rows) (hread : uuid.read text = some route.id)
    (hdriver : route.driverId = some driverId) :
    getRouteForDriverOr404 uuid db text driverId = .ok route := by
  refine bind_eq_ok.mpr ⟨route.id, orRaise_eq_ok.mpr hread, orRaise_eq_ok.mpr ?_⟩
  rw [Table.find?_eq_some_iff.mpr ⟨hroute, rfl⟩, Option.filter_some, if_pos (by simp [hdriver])]

/-- What is remembered after one more point. -/
theorem remembered_concat (seen : List TelemetryPoint) (p : TelemetryPoint) (text : String) :
    remembered (seen ++ [p]) text
      = if p.routeId = text then some p.state else remembered seen text := by
  rw [remembered, List.filter_append, List.filter_singleton]
  by_cases h : p.routeId = text
  · simp [h]
  · simp [h, remembered]

/-- The loop over the rest of a batch. -/
theorem ingestPoints_eq {seen items : List TelemetryPoint} {now : Instant}
    {lastPingByRoute : String → Option PingState} (hroutes : db'.routes = db.routes)
    (hordered : Ordered uuid driverId db (before ++ seen ++ items))
    (hstored : ∀ route, lastPingState db' route = storedState uuid db before route)
    (hcache : ∀ text, lastPingByRoute text = remembered seen text) :
    ingestPoints uuid db' driverId now lastPingByRoute items
      = .ok (Batches.batch (yields uuid driverId db) before seen items) := by
  induction items generalizing seen lastPingByRoute with
  | nil => rfl
  | cons p items ih =>
      have hmem : p ∈ before ++ seen ++ p :: items := by simp
      obtain ⟨hne, route, hroute, hread, hdriver⟩ := hordered.owned p hmem
      obtain ⟨occurredAt, htime⟩ := hordered.timed p hmem
      have hrest := @ih (seen ++ [p]) (Function.update lastPingByRoute p.routeId
        (some (p.pingState occurredAt))) (by simpa using hordered) (by
          intro text
          rw [remembered_concat, TelemetryPoint.state, htime]
          by_cases htext : text = p.routeId
          · rw [htext, Function.update_self, if_pos rfl]
            rfl
          · rw [Function.update_of_ne htext, if_neg (Ne.symm htext), hcache])
      rw [ingestPoints]
      refine bind_eq_ok.mpr ⟨⟨⟩, raiseIf_eq_ok.mpr hne, bind_eq_ok.mpr ⟨route, ?_, ?_⟩⟩
      · exact getRouteForDriverOr404_eq_ok (hroutes ▸ hroute) hread hdriver
      rw [htime, Option.getD_some]
      dsimp only
      rw [hrest, hstored, hcache, ok_bind]
      refine pure_eq_ok.mpr ?_
      rw [Batches.batch, yields, hread, htime]

/-- The first of the points are ordered, too. -/
theorem Ordered.left {points after : List TelemetryPoint}
    (h : Ordered uuid driverId db (points ++ after)) : Ordered uuid driverId db points where
  owned := fun p hp => h.owned p (List.mem_append_left after hp)
  timed := fun p hp => h.timed p (List.mem_append_left after hp)
  increasing := (List.pairwise_append.mp h.increasing).1
  later := fun p hp => h.later p (List.mem_append_left after hp)

/-- **A batch stores what its points yield.** -/
theorem ingestStep_eq {batch : TelemetryBatch} (hroutes : db'.routes = db.routes)
    (hordered : Ordered uuid driverId db (before ++ batch.items))
    (hstored : ∀ route, lastPingState db' route = storedState uuid db before route) :
    ingestStep uuid driverId db' batch = { db' with
      routeEvents := db'.routeEvents
        ++ Batches.batch (yields uuid driverId db) before [] batch.items } := by
  have hloop : ingestPoints uuid db' driverId batch.now (fun _ => none) batch.items
      = .ok (Batches.batch (yields uuid driverId db) before [] batch.items) :=
    ingestPoints_eq hroutes (by rwa [List.append_nil]) hstored fun _ => rfl
  rw [ingestStep, ingestDriverTelematicsBatch, hloop]
  rfl

/-- **A run of batches** stores what their points yield, batch after batch. -/
theorem run_ingestStep {batches : List TelemetryBatch} (hroutes : db'.routes = db.routes)
    (hordered : Ordered uuid driverId db (before ++ batches.flatMap TelemetryBatch.items))
    (hpings : ∀ route, db'.routeEvents.filter (fun e => e.IsPingOf route)
      = db.routeEvents.filter (fun e => e.IsPingOf route) ++ pingsOf uuid driverId route before) :
    (Runs.run (ingestStep uuid driverId) db' batches).routeEvents
      = db'.routeEvents ++ Batches.cut (yields uuid driverId db) before
        (batches.map TelemetryBatch.items) := by
  induction batches generalizing db' before with
  | nil => exact (List.append_nil _).symm
  | cons batch batches ih =>
      rw [List.flatMap_cons, ← List.append_assoc] at hordered
      have hstored : ∀ route, lastPingState db' route = storedState uuid db before route :=
        fun route => lastPingState_eq hordered.left rfl (hpings route)
      have hstep := ingestStep_eq hroutes hordered.left hstored
      have hrest := @ih (before ++ batch.items) (ingestStep uuid driverId db' batch)
        (by rw [hstep]; exact hroutes) hordered (by
          intro route
          rw [hstep, List.filter_append, hpings, filter_batch_yields, pingsOf_append,
            List.append_assoc])
      rw [Runs.run_cons, hrest, hstep, List.map_cons, Batches.cut, List.append_assoc]

/-- A run of batches from the start. -/
theorem run_ingestStep_start {batches : List TelemetryBatch}
    (hordered : Ordered uuid driverId db (batches.flatMap TelemetryBatch.items)) :
    (Runs.run (ingestStep uuid driverId) db batches).routeEvents
      = db.routeEvents ++ Batches.cut (yields uuid driverId db) []
        (batches.map TelemetryBatch.items) :=
  run_ingestStep rfl hordered fun route => by simp [pingsOf, pointsOf]

end Ingest

/-! ### Cuts -/

section Cuts

variable {uuid : UuidText} {driverId : Id} {db : TelematicsDb} {points : List TelemetryPoint}

theorem TelemetryPoint.length_braking_le (item : TelemetryPoint) (occurredAt : Instant)
    (previous : PingState) : (item.braking occurredAt previous).length ≤ 1 := by
  unfold braking
  split
  · dsimp only
    split_ifs <;> simp
  · simp

/-- The events of a point tell which harsh-braking event it has. -/
theorem TelemetryPoint.perm_events_iff (item : TelemetryPoint) (route driverId : Id)
    (occurredAt : Instant) (previous previous' : PingState) :
    (item.events route driverId occurredAt previous).Perm
        (item.events route driverId occurredAt previous') ↔
      item.braking occurredAt previous = item.braking occurredAt previous' := by
  constructor
  · intro hperm
    unfold events at hperm
    rw [List.map_cons, List.map_cons, List.perm_cons, List.map_append, List.map_append,
      List.perm_append_left_iff] at hperm
    have hinjective : Function.Injective (item.event route driverId occurredAt) :=
      fun _ _ h => congrArg RouteEvent.data h
    have hperm := (List.map_perm_map_iff hinjective).mp hperm
    have hlength := item.length_braking_le occurredAt previous'
    cases hprevious : item.braking occurredAt previous' with
    | nil => exact List.perm_nil.mp (hprevious ▸ hperm)
    | cons data rest =>
        rw [hprevious, List.length_cons] at hlength
        obtain rfl : rest = [] := List.length_eq_zero_iff.mp (by omega)
        exact List.perm_singleton.mp (hprevious ▸ hperm)
  · intro heq
    rw [events, events, heq]

/-- What a point yields, in a sequence that is ordered. -/
theorem yields_eq {seen : List TelemetryPoint} {p : TelemetryPoint} {route : Id}
    {occurredAt : Instant} (hread : uuid.read p.routeId = some route)
    (htime : p.occurredAt = some occurredAt) :
    yields uuid driverId db before seen p = p.events route driverId occurredAt
      ((remembered seen p.routeId).getD (storedState uuid db before route)) := by
  rw [yields, hread, htime]

/-- Nothing is remembered under a text that the batch has not met. -/
theorem remembered_eq_none {seen : List TelemetryPoint} {text : String}
    (h : ∀ r ∈ seen, r.routeId ≠ text) : remembered seen text = none := by
  have hnone : seen.filter (fun p => p.routeId = text) = [] :=
    List.filter_eq_nil_iff.mpr fun r hr htext => h r hr (of_decide_eq_true htext)
  rw [remembered, hnone]
  rfl

/-- The last point of a route that was stored. -/
theorem storedState_of_last {rest : List TelemetryPoint} {q : TelemetryPoint} {route : Id}
    (hq : uuid.read q.routeId = some route) (hrest : ∀ r ∈ rest, uuid.read r.routeId ≠ some route) :
    storedState uuid db (before ++ q :: rest) route = q.state := by
  have hlast : (pointsOf uuid route (before ++ q :: rest)).getLast? = some q :=
    Batches.getLast?_filter_iff.mpr ⟨decide_eq_true hq, before, rest, rfl,
      fun r hr => decide_eq_false (hrest r hr)⟩
  rw [storedState, hlast]
  rfl

theorem oneVerdict_of_cutFree (h : Batches.CutFree (yields uuid driverId db) points) :
    OneVerdict uuid db points where
  earlier := by
    intro before q between p rest route occurredAt hpoints htime hp hq hbetween
    have hperm := h (before ++ [q]) between p rest (by rw [hpoints]; simp)
    rw [yields_eq hp htime, yields_eq hp htime, TelemetryPoint.perm_events_iff,
      remembered_eq_none hbetween] at hperm
    have hstored : storedState uuid db (before ++ [q]) route = q.state :=
      storedState_of_last hq fun r hr => absurd hr List.not_mem_nil
    rw [Option.getD_none, hstored, List.append_assoc, List.singleton_append] at hperm
    exact hperm
  stored := by
    intro before p rest route occurredAt hpoints htime hp hbefore
    have hperm := h [] before p rest hpoints
    rw [yields_eq hp htime, yields_eq hp htime, TelemetryPoint.perm_events_iff,
      remembered_eq_none hbefore] at hperm
    exact hperm

theorem cutFree_of_oneVerdict (hordered : Ordered uuid driverId db points)
    (h : OneVerdict uuid db points) : Batches.CutFree (yields uuid driverId db) points := by
  intro before seen p rest hpoints
  have hmem : p ∈ points := by simp [hpoints]
  obtain ⟨-, row, -, hp, -⟩ := hordered.owned p hmem
  obtain ⟨occurredAt, htime⟩ := hordered.timed p hmem
  rw [yields_eq hp htime, yields_eq hp htime, TelemetryPoint.perm_events_iff]
  show _ = p.braking occurredAt (storedState uuid db (before ++ seen) row.id)
  cases hseen : (seen.filter fun r => r.routeId = p.routeId).getLast? with
  | some q =>
      -- The batch has met the text: the last point with it is remembered.
      obtain ⟨hq, init, between, rfl, hbetween⟩ := Batches.getLast?_filter_iff.mp hseen
      have hq : q.routeId = p.routeId := of_decide_eq_true hq
      rw [remembered, hseen]
      have hearlier := h.earlier (before ++ init) q between p rest row.id occurredAt
        (by rw [hpoints]; simp) htime hp (hq ▸ hp) fun r hr => of_decide_eq_false (hbetween r hr)
      rwa [List.append_assoc] at hearlier
  | none =>
      have hunmet : ∀ r ∈ seen, r.routeId ≠ p.routeId := fun r hr htext =>
        absurd (List.getLast?_eq_none_iff.mp hseen) (List.ne_nil_of_mem
          (List.mem_filter.mpr ⟨hr, decide_eq_true htext⟩))
      rw [remembered_eq_none hunmet, Option.getD_none]
      cases hstored : (pointsOf uuid row.id before).getLast? with
      | some q =>
          -- The last stored point of the route.
          obtain ⟨hq, init, after, rfl, hafter⟩ := Batches.getLast?_filter_iff.mp hstored
          have hafter : ∀ r ∈ after, uuid.read r.routeId ≠ some row.id :=
            fun r hr => of_decide_eq_false (hafter r hr)
          rw [storedState_of_last (of_decide_eq_true hq) hafter]
          have hearlier := h.earlier init q (after ++ seen) p rest row.id occurredAt
            (by rw [hpoints]; simp) htime hp (of_decide_eq_true hq) (by
              intro r hr htext
              rcases List.mem_append.mp hr with hr | hr
              · exact hafter r hr (htext ▸ hp)
              · exact hunmet r hr htext)
          rwa [← List.cons_append, ← List.append_assoc] at hearlier
      | none =>
          -- No point of the route is stored.
          have hnone : ∀ r ∈ before, uuid.read r.routeId ≠ some row.id := fun r hr hread =>
            absurd (List.getLast?_eq_none_iff.mp hstored) (List.ne_nil_of_mem
              (List.mem_filter.mpr ⟨hr, decide_eq_true hread⟩))
          rw [storedState, hstored]
          refine h.stored (before ++ seen) p rest row.id occurredAt hpoints htime hp ?_
          intro r hr htext
          rcases List.mem_append.mp hr with hr | hr
          · exact hnone r hr (htext ▸ hp)
          · exact hunmet r hr htext

/-- What tells apart the events of different points: the route and the time. -/
def eventKey (event : RouteEvent) : Option Id × Option Instant :=
  (some event.routeId, some event.occurredAt)

theorem eventKey_yields (before seen : List TelemetryPoint) (p : TelemetryPoint) :
    ∀ e ∈ yields uuid driverId db before seen p,
      eventKey e = (uuid.read p.routeId, p.occurredAt) := by
  intro e he
  unfold yields at he
  split at he
  · next route occurredAt hread htime =>
      obtain ⟨data, -, rfl⟩ := List.mem_map.mp he
      rw [hread, htime]
      rfl
  · exact absurd he List.not_mem_nil

theorem Ordered.nodup_keys (h : Ordered uuid driverId db points) :
    (points.map fun p => (uuid.read p.routeId, p.occurredAt)).Nodup := by
  refine List.pairwise_map.mpr (h.increasing.imp_of_mem fun {p q} hp hq hlt heq => ?_)
  obtain ⟨hread, htime⟩ := Prod.mk.inj heq
  obtain ⟨a, ha⟩ := h.timed p hp
  exact lt_irrefl a (hlt hread a ha a (htime ▸ ha))

/-- **Cutting a sequence of points into batches.** Every way of doing it stores the same events
as one single batch does, exactly if for no point it matters which ping it is compared with. -/
theorem ingest_cuts_agree_iff (hordered : Ordered uuid driverId db points) (now : Instant) :
    (∀ batches : List TelemetryBatch, batches.flatMap TelemetryBatch.items = points →
      (Runs.run (ingestStep uuid driverId) db batches).routeEvents.Perm
        (Runs.run (ingestStep uuid driverId) db [⟨now, points⟩]).routeEvents) ↔
      OneVerdict uuid db points := by
  have hcut : (∀ batches : List (List TelemetryPoint), batches.flatten = points →
      (Batches.cut (yields uuid driverId db) [] batches).Perm
        (Batches.cut (yields uuid driverId db) [] [points])) ↔ OneVerdict uuid db points :=
    (Batches.perm_cut_iff eventKey_yields hordered.nodup_keys).trans
      ⟨oneVerdict_of_cutFree, cutFree_of_oneVerdict hordered⟩
  have hsingle : (Runs.run (ingestStep uuid driverId) db [⟨now, points⟩]).routeEvents
      = db.routeEvents ++ Batches.cut (yields uuid driverId db) [] [points] :=
    run_ingestStep_start (by simpa using hordered)
  rw [← hcut]
  constructor
  · intro h batches hbatches
    have hitems : ((batches.map fun items => (⟨now, items⟩ : TelemetryBatch)).flatMap
        TelemetryBatch.items) = points := by
      rw [List.flatMap_def, List.map_map, ← hbatches]
      exact congrArg List.flatten (List.map_id batches)
    have hperm := h _ hitems
    rw [run_ingestStep_start (hitems ▸ hordered), hsingle, List.perm_append_left_iff,
      List.map_map] at hperm
    exact (congrArg (Batches.cut (yields uuid driverId db) []) (List.map_id batches)) ▸ hperm
  · intro h batches hbatches
    rw [run_ingestStep_start (hbatches ▸ hordered), hsingle, List.perm_append_left_iff]
    exact h (batches.map TelemetryBatch.items) (by rw [← List.flatMap_def, hbatches])

/-- When each route is named by one text, the ping a point is compared with is the last one. -/
theorem oneVerdict_of_one_text
    (htext : ∀ p ∈ points, ∀ q ∈ points, uuid.read p.routeId = uuid.read q.routeId →
      p.routeId = q.routeId) : OneVerdict uuid db points where
  earlier := by
    intro before q between p rest route occurredAt hpoints _ hp hq hbetween
    rw [storedState_of_last hq fun r hr hread => hbetween r hr ?_]
    exact htext r (by simp [hpoints, hr]) p (by simp [hpoints]) (hread.trans hp.symm)
  stored := by
    intro before p rest route occurredAt hpoints _ hp hbefore
    have hnone : pointsOf uuid route before = [] := List.filter_eq_nil_iff.mpr fun r hr hread =>
      hbefore r hr (htext r (by simp [hpoints, hr]) p (by simp [hpoints])
        ((of_decide_eq_true hread).trans hp.symm))
    rw [storedState, hnone]
    rfl

end Cuts

/-! ### Two texts of one route -/

/-- The digits of a UUID that ends in a decimal number, up to the number. -/
def plainUuidHead : List Char := "00000000000040008000".toList

theorem hyphen_notMem_twelvePlaces (n : ℕ) : '-' ∉ twelvePlaces n := by
  rw [twelvePlaces, List.mem_append]
  rintro (hzero | hdigit)
  · exact absurd (List.eq_of_mem_replicate hzero) (by decide)
  · exact absurd (Decimal.isDigit_of_mem_toDigits hdigit) (by decide)

/-- Keys as texts, with hyphens or without. -/
def hyphenUuid : UuidText where
  parses text := decide (plainUuidHead <+: text.toList.filter (· ≠ '-'))
  read text := if plainUuidHead <+: text.toList.filter (· ≠ '-') then
      parseInt ((text.toList.filter (· ≠ '-')).drop plainUuidHead.length)
    else none
  write id := String.ofList (decimalUuidHead ++ twelvePlaces id)
  read_write id := by
    have hdigits : (twelvePlaces id).filter (· ≠ '-') = twelvePlaces id :=
      List.filter_eq_self.mpr fun c hc => decide_eq_true fun hhyphen =>
        hyphen_notMem_twelvePlaces id (hhyphen ▸ hc)
    have htext : (decimalUuidHead ++ twelvePlaces id).filter (· ≠ '-')
        = plainUuidHead ++ twelvePlaces id := by
      rw [List.filter_append, hdigits]
      rfl
    rw [String.toList_ofList, htext, if_pos (List.prefix_append _ _), List.drop_left,
      parseInt_twelvePlaces]

/-- A driver's route without events. -/
def oneRouteDb : TelematicsDb := ⟨.singleton ⟨1, some 1⟩, []⟩

/-- A point of a route with a time, in seconds, and a speed. -/
def pointAt (routeId : String) (seconds : ℤ) (speedMph : ℚ) : TelemetryPoint :=
  ⟨routeId, some (seconds * 1000000), none, none, some speedMph, none, none, some "gps"⟩

/-- The driver brakes from sixty to twenty miles an hour within ten seconds; the two points
name the route by the texts. -/
def brakes (first second : String) : List TelemetryPoint :=
  [pointAt first 0 60, pointAt second 10 20]

theorem ordered_brakes {first second : String} (hfirst : hyphenUuid.read first = some 1)
    (hsecond : hyphenUuid.read second = some 1) (hne : first ≠ "" ∧ second ≠ "") :
    Ordered hyphenUuid 1 oneRouteDb (brakes first second) where
  owned := List.forall_mem_cons.mpr ⟨⟨hne.1, ⟨1, some 1⟩, List.mem_singleton_self _, hfirst, rfl⟩,
    List.forall_mem_singleton.mpr
      ⟨hne.2, ⟨1, some 1⟩, List.mem_singleton_self _, hsecond, rfl⟩⟩
  timed := List.forall_mem_cons.mpr ⟨⟨_, rfl⟩, List.forall_mem_singleton.mpr ⟨_, rfl⟩⟩
  increasing := by
    refine List.pairwise_pair.mpr fun _ a ha b hb => ?_
    obtain rfl := Option.some.inj ha
    obtain rfl := Option.some.inj hb
    decide
  later := fun _ _ _ _ e he => absurd he List.not_mem_nil

/-- With one text the two cuts of the two points agree. -/
theorem brakes_one_text :
    (Runs.run (ingestStep hyphenUuid 1) oneRouteDb
        [⟨0, [pointAt "00000000-0000-4000-8000-000000000001" 0 60]⟩,
          ⟨0, [pointAt "00000000-0000-4000-8000-000000000001" 10 20]⟩]).routeEvents.Perm
      (Runs.run (ingestStep hyphenUuid 1) oneRouteDb [⟨0,
        brakes "00000000-0000-4000-8000-000000000001"
          "00000000-0000-4000-8000-000000000001"⟩]).routeEvents := by
  refine (ingest_cuts_agree_iff (ordered_brakes (by decide +kernel) (by decide +kernel)
    (by decide)) 0).mpr (oneVerdict_of_one_text fun p hp q hq _ => ?_) _ rfl
  have htext : ∀ p ∈ brakes "00000000-0000-4000-8000-000000000001"
      "00000000-0000-4000-8000-000000000001",
      p.routeId = "00000000-0000-4000-8000-000000000001" :=
    List.forall_mem_cons.mpr ⟨rfl, List.forall_mem_singleton.mpr rfl⟩
  rw [htext p hp, htext q hq]

/-- **With two texts they do not**: in one batch the second point is not compared with the
first, and no harsh braking is stored. -/
theorem brakes_two_texts :
    Ordered hyphenUuid 1 oneRouteDb (brakes "00000000-0000-4000-8000-000000000001"
        "00000000000040008000000000000001") ∧
      ¬ (Runs.run (ingestStep hyphenUuid 1) oneRouteDb
          [⟨0, [pointAt "00000000-0000-4000-8000-000000000001" 0 60]⟩,
            ⟨0, [pointAt "00000000000040008000000000000001" 10 20]⟩]).routeEvents.Perm
        (Runs.run (ingestStep hyphenUuid 1) oneRouteDb [⟨0,
          brakes "00000000-0000-4000-8000-000000000001"
            "00000000000040008000000000000001"⟩]).routeEvents := by
  refine ⟨ordered_brakes (by decide +kernel) (by decide +kernel) (by decide), fun hperm => ?_⟩
  have hlength := hperm.length_eq
  revert hlength
  decide +kernel

end SwCouriers.Telematics
