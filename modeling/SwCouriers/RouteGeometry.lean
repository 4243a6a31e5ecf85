import Mathlib.Data.List.Sort
import SwCouriers.Common
import SwCouriers.Lib.Checked
import SwCouriers.Lib.Double
import SwCouriers.Lib.Table

/-!
# Route Geometry

`RouteGeometryService`: the planned line of a route, which is computed on demand and kept in
Redis, and the line that was driven, which is computed leg by leg from the pings of the driver.

The routing engine is a parameter: `route` and `match` are functions of the coordinates they
are asked about. Identifiers appear in the cache key as texts (`RouteEnv.idText`), and the key
is a digest of a text (`RouteEnv.sha256`). A coordinate is a double, kept as the number it
stands for; the index of a sampled ping is computed in doubles (`sampleIndex`). The cached
payload is kept as the value that its JSON text stands for.

## Main definitions

* `loadRouteContext`: a route with its located stops and its depot.
* `getOrComputePlannedGeometry`: the planned line, from the cache or computed and cached.
* `computeTraveledHistory`: the driven legs, with what is stored on the route's stops.
-/

namespace SwCouriers.RouteGeometry

open Checked

/-! ### Rows -/

/-- A point as the routing engine takes it. -/
structure Coordinate where
  longitude : ℚ
  latitude : ℚ
  deriving DecidableEq

/-- A row of `routes`. -/
structure Route where
  id : Id
  planId : Option Id
  driverId : Option Id

/-- A row of `route_plans`. -/
structure RoutePlan where
  id : Id
  depotId : Id

/-- A row of `drivers`. -/
structure Driver where
  id : Id
  depotId : Option Id

/-- A row with coordinates that may be missing: a depot, a delivery stop, a pickup address. -/
structure Site where
  id : Id
  latitude : Option ℚ
  longitude : Option ℚ
  deriving DecidableEq

/-- A row of `orders`. -/
structure Order where
  id : Id
  pickupAddressId : Option Id

/-- The source of a leg. -/
inductive LegSource where
  | osrmMatch | osrmRouteFallback | none
  deriving DecidableEq, Repr

/-- `traveled_meta`. -/
structure TraveledMeta where
  source : LegSource
  pointCount : ℕ
  deriving DecidableEq

/-- A row of `route_stops`. -/
structure RouteStop where
  id : Id
  routeId : Id
  deliveryStopId : Option Id
  orderId : Option Id
  sequence : ℤ
  actualArrival : Option Instant
  traveledEncodedPolyline : Option String
  traveledDistanceM : Option ℤ
  traveledDurationS : Option ℤ
  traveledStartedAt : Option Instant
  traveledEndedAt : Option Instant
  traveledMeta : Option TraveledMeta
  deriving DecidableEq

/-- A row of `route_events`. -/
structure RouteEvent where
  id : Id
  routeId : Id
  eventType : String
  occurredAt : Instant
  lat : Option ℚ
  lng : Option ℚ

/-- The tables. -/
structure Tables where
  routes : Table Route.id
  routePlans : Table RoutePlan.id
  drivers : Table Driver.id
  depots : Table Site.id
  deliveryStops : Table Site.id
  orders : Table Order.id
  pickupAddresses : Table Site.id
  routeStops : Table RouteStop.id
  routeEvents : Table RouteEvent.id

/-! ### The routing engine -/

/-- A leg of an answer of the routing engine. -/
structure OsrmLeg where
  distance : Option ℚ
  duration : Option ℚ
  deriving DecidableEq

/-- A route or a matching of an answer. A `geometry` that is no text counts as missing, and so
does a leg that is no object. -/
structure OsrmRoute where
  geometry : Option String
  distance : Option ℚ
  duration : Option ℚ
  legs : List (Option OsrmLeg)

/-- What the service uses beside the database. -/
structure RouteEnv where
  /-- `route`: the routes of the answer. -/
  route : List Coordinate → Except ServiceError (List OsrmRoute)
  /-- `match`: the matchings of the answer, `none` for one that is no object. -/
  matchTrace : List Coordinate → Except ServiceError (List (Option OsrmRoute))
  /-- The text of an identifier. -/
  idText : Id → String
  idText_injective : Function.Injective idText
  comma_notMem_idText : ∀ id, ',' ∉ (idText id).toList
  /-- The SHA-256 of a text, in hexadecimal. -/
  sha256 : String → String

/-- An environment with the given engine, whose digest is the text itself. -/
def withEngine (route : List Coordinate → Except ServiceError (List OsrmRoute))
    (matchTrace : List Coordinate → Except ServiceError (List (Option OsrmRoute))) :
    RouteEnv where
  route := route
  matchTrace := matchTrace
  idText := decimalUuid.write
  idText_injective := decimalUuid.write_injective
  comma_notMem_idText := comma_notMem_decimalUuid
  sha256 text := text

/-! ### The context of a route -/

/-- `PlannedStop`. -/
structure PlannedStop where
  routeStopId : Id
  deliveryStopId : Option Id
  orderId : Option Id
  sequence : ℤ
  latitude : ℚ
  longitude : ℚ
  deriving DecidableEq

/-- Where a planned stop is. -/
def PlannedStop.coordinate (s : PlannedStop) : Coordinate := ⟨s.longitude, s.latitude⟩

/-- The coordinates of a site that has both. -/
def Site.coordinate? (site : Site) : Option Coordinate := do
  let latitude ← site.latitude
  let longitude ← site.longitude
  return ⟨longitude, latitude⟩

/-- The stops of a route in the order of their sequence. -/
def routeStops (db : Tables) (routeId : Id) : List RouteStop :=
  (db.routeStops.rows.filter fun rs => rs.routeId = routeId).insertionSort
    fun a b => a.sequence ≤ b.sequence

/-- The delivery stop that a route stop joins to. -/
def RouteStop.deliveryStop (db : Tables) (rs : RouteStop) : Option Site :=
  rs.deliveryStopId.bind db.deliveryStops.find?

/-- The pickup address that a route stop joins to, through its order. -/
def RouteStop.pickupAddress (db : Tables) (rs : RouteStop) : Option Site :=
  (rs.orderId.bind db.orders.find?).bind fun order =>
    order.pickupAddressId.bind db.pickupAddresses.find?

/-- `_resolve_coords`: the pickup address comes first, the delivery stop is the fallback. -/
def resolveCoords (ds pa : Option Site) : Option Coordinate :=
  (pa.bind Site.coordinate?).orElse fun _ => ds.bind Site.coordinate?

/-- The planned stop of a row, unless it has no coordinates on both sides. -/
def plannedStop? (db : Tables) (rs : RouteStop) : Option PlannedStop :=
  (resolveCoords (rs.deliveryStop db) (rs.pickupAddress db)).map fun c =>
    { routeStopId := rs.id
      deliveryStopId := (rs.deliveryStop db).map Site.id
      orderId := rs.orderId
      sequence := rs.sequence
      latitude := c.latitude
      longitude := c.longitude }

/-- The planned stops of a route, in order. -/
def plannedStops (db : Tables) (routeId : Id) : List PlannedStop :=
  (routeStops db routeId).filterMap (plannedStop? db)

/-- `_infer_depot_id`: the depot of the route's plan, else that of its driver. -/
def inferDepotId (db : Tables) (route : Route) : Option Id :=
  match route.planId.bind db.routePlans.find? with
  | some plan => some plan.depotId
  | none => (route.driverId.bind db.drivers.find?).bind Driver.depotId

/-- The depot of a route, if it is known. -/
def routeDepot (db : Tables) (route : Route) : Option Site :=
  (inferDepotId db route).bind db.depots.find?

/-- `_load_route_context`. -/
def loadRouteContext (db : Tables) (routeId : Id) :
    Except ServiceError (Route × List PlannedStop × Option Site) := do
  let route ← orRaise (db.routes.find? routeId) (.notFound "route" (some routeId))
  return (route, plannedStops db routeId, routeDepot db route)

/-- The point that legs start from: the depot, if it is known and has coordinates. -/
def depotOrigin (depot : Option Site) : Option Coordinate :=
  depot.bind Site.coordinate?

/-! ### The planned line -/

/-- The distance and the duration of a leg of the planned line. -/
structure PlannedLeg where
  distanceM : Option ℚ
  durationS : Option ℚ
  deriving DecidableEq

/-- What the routing engine says of a planned route. -/
structure PlannedLine where
  encodedPolyline : Option String
  geometryFormat : String
  distanceM : Option ℚ
  durationS : Option ℚ
  legs : List PlannedLeg
  deriving DecidableEq

/-- The cached payload. -/
structure PlannedPayload extends PlannedLine where
  computedAt : Instant
  deriving DecidableEq

/-- `PlannedGeometry`. -/
structure PlannedGeometry extends PlannedLine where
  fingerprint : String
  cacheHit : Bool
  computedAt : Instant
  deriving DecidableEq

/-- The values stored in Redis, by key. -/
abbrev Redis := String → Option PlannedPayload

/-- `_PLANNED_CACHE_PREFIX`. -/
def plannedCachePrefix : String := "osrm:planned_route:v1:"

/-- `sequence:route_stop_id`. -/
def entryText (env : RouteEnv) (pair : ℤ × Id) : String :=
  toString pair.1 ++ ":" ++ env.idText pair.2

/-- The text that the fingerprint is a digest of. -/
def fingerprintText (env : RouteEnv) (pairs : List (ℤ × Id)) : String :=
  String.intercalate "," ((pairs.insertionSort fun a b => a.1 ≤ b.1).map (entryText env))

/-- `compute_route_navigation_fingerprint`. -/
def computeRouteNavigationFingerprint (env : RouteEnv) (pairs : List (ℤ × Id)) : String :=
  env.sha256 (fingerprintText env pairs)

/-- `_read_planned_cache`. -/
def readPlannedCache (redisUp : Bool) (redis : Redis) (fingerprint : String) :
    Option PlannedPayload :=
  if redisUp then redis (plannedCachePrefix ++ fingerprint) else none

/-- `_write_planned_cache`. -/
def writePlannedCache (redisUp : Bool) (redis : Redis) (fingerprint : String)
    (payload : PlannedPayload) : Redis :=
  if redisUp then Function.update redis (plannedCachePrefix ++ fingerprint) (some payload)
  else redis

/-- The points of the planned line: the depot, then the stops. -/
def plannedCoordinates (stops : List PlannedStop) (depot : Option Site) : List Coordinate :=
  (depotOrigin depot).toList ++ stops.map PlannedStop.coordinate

/-- The line that an answer of the routing engine describes: its first route. -/
def plannedLine (routes : List OsrmRoute) : PlannedLine :=
  let first := routes.headD ⟨none, none, none, []⟩
  { encodedPolyline := first.geometry
    geometryFormat := "polyline"
    distanceM := first.distance
    durationS := first.duration
    legs := (first.legs.filterMap id).map fun leg => ⟨leg.distance, leg.duration⟩ }

/-- `get_or_compute_planned_geometry`, with what Redis holds afterwards. -/
def getOrComputePlannedGeometry (env : RouteEnv) (redisUp : Bool) (now : Instant)
    (redis : Redis) (db : Tables) (routeId : Id) :
    Except ServiceError (Redis × PlannedGeometry) := do
  let (_route, planned, depot) ← loadRouteContext db routeId
  raiseIf (planned = []) (invalid "Route has no stops with coordinates")
  let fingerprint := computeRouteNavigationFingerprint env
    (planned.map fun s => (s.sequence, s.routeStopId))
  match readPlannedCache redisUp redis fingerprint with
  | some cached =>
      let format := if cached.geometryFormat = "" then "polyline" else cached.geometryFormat
      return (redis, { cached.toPlannedLine with
        geometryFormat := format
        fingerprint := fingerprint
        cacheHit := true
        computedAt := cached.computedAt })
  | none =>
      let coordinates := plannedCoordinates planned depot
      raiseIf (coordinates.length < 2)
        (invalid "At least two coordinates required to plan a route")
      let routes ← env.route coordinates
      let payload : PlannedPayload := { plannedLine routes with computedAt := now }
      return (writePlannedCache redisUp redis fingerprint payload,
        { plannedLine routes with
          fingerprint := fingerprint
          cacheHit := false
          computedAt := now })

/-! ### The driven legs -/

/-- A ping as a leg uses it. The source compares pings as objects, so the event is kept. -/
structure Ping where
  event : Id
  lat : ℚ
  lng : ℚ
  occurredAt : Instant
  deriving DecidableEq

/-- Where a ping was sent from. -/
def Ping.coordinate (p : Ping) : Coordinate := ⟨p.lng, p.lat⟩

/-- The ping that an event of the route is, if it is one with coordinates. -/
def ping? (routeId : Id) (event : RouteEvent) : Option Ping := do
  guard (event.routeId = routeId ∧ event.eventType = "LOCATION_PING")
  let lat ← event.lat
  let lng ← event.lng
  return ⟨event.id, lat, lng, event.occurredAt⟩

/-- The pings of a route. -/
def routePings (db : Tables) (routeId : Id) : List Ping :=
  db.routeEvents.rows.filterMap (ping? routeId)

/-- A window is open on a side where its bound is missing, and holds the bounds it has. -/
def inWindow (start finish : Option Instant) (at_ : Instant) : Bool :=
  (start.all fun s => decide (s ≤ at_)) && (finish.all fun f => decide (at_ ≤ f))

/-- `_pings_for_window`. -/
def pingsForWindow (db : Tables) (routeId : Id) (start finish : Option Instant) : List Ping :=
  ((routePings db routeId).filter fun p => inWindow start finish p.occurredAt).insertionSort
    fun a b => a.occurredAt ≤ b.occurredAt

/-- `_route_start_event_at`. -/
def routeStartEventAt (db : Tables) (routeId : Id) : Option Instant :=
  ((db.routeEvents.rows.filter fun e =>
    e.routeId = routeId ∧ e.eventType = "ROUTE_STARTED").map RouteEvent.occurredAt).min?

/-- `int(i * step)` for `step = n / maxSize`, in doubles. -/
def sampleIndex (n maxSize i : ℕ) : ℕ :=
  ⌊Double.round (i * Double.round (n / maxSize))⌋₊

/-- The indices that are sampled, each where it comes first. -/
def sampledIndices (n maxSize : ℕ) : List ℕ :=
  ((List.range maxSize).map (sampleIndex n maxSize)).reverse.dedup.reverse

/-- The points at the sampled indices. -/
def sampledPoints {α : Type} (points : List α) (maxSize : ℕ) : List α :=
  (sampledIndices points.length maxSize).filterMap fun i => points[i]?

/-- `_downsample`: all of a short list, else the points at the sampled indices, and the last
point unless it is the last of them. -/
def downsample {α : Type} (points : List α) (maxSize : ℕ) : List α :=
  if points.length ≤ maxSize then points
  else if (sampledIndices points.length maxSize).getLast? = some (points.length - 1) then
    sampledPoints points maxSize
  else sampledPoints points maxSize ++ points.getLast?.toList

/-- `_MAX_PINGS_PER_LEG`. -/
def maxPingsPerLeg : ℕ := 100

/-- `_MIN_PINGS_FOR_MATCH`. -/
def minPingsForMatch : ℕ := 4

/-- `_MIN_PINGS_FOR_FALLBACK`. -/
def minPingsForFallback : ℕ := 2

/-- What a leg goes between: the point and the time of the stop before, and the stop. -/
structure Leg where
  routeStop : RouteStop
  prevCoord : Option Coordinate
  currCoord : Coordinate
  prevTime : Option Instant
  currTime : Option Instant

/-- `TraveledLegOutcome`. -/
structure TraveledLegOutcome where
  routeStopId : Id
  sequence : ℤ
  encodedPolyline : Option String
  distanceM : Option ℤ
  durationS : Option ℤ
  startedAt : Option Instant
  endedAt : Option Instant
  source : LegSource
  pointCount : ℕ
  deriving DecidableEq

/-- `int(x)`: towards zero. -/
def truncate (x : ℚ) : ℤ := x.num.tdiv x.den

/-- The answer that the engine gave, `none` if it was a validation error; other errors pass. -/
def orNone {α : Type} : Except ServiceError α → Except ServiceError (Option α)
  | .ok a => .ok (some a)
  | .error (.validation _ _) => .ok none
  | .error e => .error e

/-- A leg that the engine drew from its pings. -/
def matchedLeg (leg : Leg) (downsampled : List Ping) (m0 : OsrmRoute) : TraveledLegOutcome :=
  { routeStopId := leg.routeStop.id
    sequence := leg.routeStop.sequence
    encodedPolyline := m0.geometry
    distanceM := m0.distance.map truncate
    durationS := m0.duration.map truncate
    startedAt := downsampled.head?.map Ping.occurredAt
    endedAt := downsampled.getLast?.map Ping.occurredAt
    source := .osrmMatch
    pointCount := downsampled.length }

/-- A leg drawn between its two planned points. -/
def fallbackLeg (leg : Leg) (downsampled : List Ping) (routes : List OsrmRoute) :
    TraveledLegOutcome :=
  let first := routes.headD ⟨none, none, none, []⟩
  { routeStopId := leg.routeStop.id
    sequence := leg.routeStop.sequence
    encodedPolyline := first.geometry
    distanceM := first.distance.map truncate
    durationS := first.duration.map truncate
    startedAt := leg.prevTime
    endedAt := leg.currTime
    source := .osrmRouteFallback
    pointCount := downsampled.length }

/-- A leg without a line. -/
def emptyLeg (leg : Leg) (downsampled : List Ping) : TraveledLegOutcome :=
  { routeStopId := leg.routeStop.id
    sequence := leg.routeStop.sequence
    encodedPolyline := none
    distanceM := none
    durationS := none
    startedAt := (downsampled.head?.map Ping.occurredAt).or leg.prevTime
    endedAt := (downsampled.getLast?.map Ping.occurredAt).or leg.currTime
    source := .none
    pointCount := downsampled.length }

/-- The first matching of the engine for enough pings, if there is one. -/
def matchPings (env : RouteEnv) (downsampled : List Ping) :
    Except ServiceError (Option OsrmRoute) :=
  if minPingsForMatch ≤ downsampled.length then do
    let answer ← orNone (env.matchTrace (downsampled.map Ping.coordinate))
    return answer.bind fun matchings => matchings.head?.bind id
  else .ok none

/-- The engine's route between the two points of a leg with too few pings. -/
def routeFallback (env : RouteEnv) (leg : Leg) (downsampled : List Ping) :
    Except ServiceError (Option (List OsrmRoute)) :=
  match leg.prevCoord with
  | some prevCoord =>
      if downsampled.length < minPingsForFallback then
        orNone (env.route [prevCoord, leg.currCoord])
      else .ok none
  | none => .ok none

/-- The pings that a leg uses. -/
def legPings (db : Tables) (routeId : Id) (leg : Leg) : List Ping :=
  downsample (pingsForWindow db routeId leg.prevTime leg.currTime) maxPingsPerLeg

/-- `_compute_leg_outcome`. -/
def computeLegOutcome (env : RouteEnv) (db : Tables) (routeId : Id) (leg : Leg) :
    Except ServiceError TraveledLegOutcome := do
  let downsampled := legPings db routeId leg
  match ← matchPings env downsampled with
  | some m0 => return matchedLeg leg downsampled m0
  | none =>
      match ← routeFallback env leg downsampled with
      | some routes => return fallbackLeg leg downsampled routes
      | none => return emptyLeg leg downsampled

/-- `_persist_leg`. -/
def persistLeg (db : Tables) (outcome : TraveledLegOutcome) : Tables :=
  { db with routeStops := db.routeStops.modify outcome.routeStopId (fun rs =>
    { rs with
      traveledEncodedPolyline := outcome.encodedPolyline
      traveledDistanceM := outcome.distanceM
      traveledDurationS := outcome.durationS
      traveledStartedAt := outcome.startedAt
      traveledEndedAt := outcome.endedAt
      traveledMeta := some ⟨outcome.source, outcome.pointCount⟩ }) fun _ => rfl }

/-- `TraveledHistoryOutcome`. -/
structure TraveledHistoryOutcome where
  legs : List TraveledLegOutcome
  totalDistanceM : ℤ
  totalDurationS : ℤ
  totalPoints : ℕ
  deriving DecidableEq

/-- What the loop over the stops carries. -/
structure HistoryLoop where
  db : Tables
  outcome : TraveledHistoryOutcome
  prevCoord : Option Coordinate
  prevTime : Option Instant

/-- A pass of the loop. A stop that was not planned, for want of coordinates, is skipped. -/
def historyStep (env : RouteEnv) (db : Tables) (routeId : Id) (planned : List PlannedStop)
    (loop : HistoryLoop) (rs : RouteStop) : Except ServiceError HistoryLoop := do
  match planned.find? fun s => s.routeStopId = rs.id with
  | none => return loop
  | some projected =>
      let currCoord := projected.coordinate
      let currTime := rs.actualArrival
      let leg : Leg := ⟨rs, loop.prevCoord, currCoord, loop.prevTime, currTime⟩
      let outcome ← computeLegOutcome env db routeId leg
      return {
        db := persistLeg loop.db outcome
        outcome := {
          legs := loop.outcome.legs ++ [outcome]
          totalDistanceM := loop.outcome.totalDistanceM + outcome.distanceM.getD 0
          totalDurationS := loop.outcome.totalDurationS + outcome.durationS.getD 0
          totalPoints := loop.outcome.totalPoints + outcome.pointCount }
        prevCoord := some currCoord
        prevTime := currTime }

/-- `compute_traveled_history`, with the tables afterwards. -/
def computeTraveledHistory (env : RouteEnv) (db : Tables) (routeId : Id) :
    Except ServiceError (Tables × TraveledHistoryOutcome) := do
  let (_route, planned, depot) ← loadRouteContext db routeId
  raiseIf (planned = []) (invalid "Route has no stops to materialise history for")
  let start : HistoryLoop := ⟨db, ⟨[], 0, 0, 0⟩, depotOrigin depot, routeStartEventAt db routeId⟩
  let loop ← (routeStops db routeId).foldlM (historyStep env db routeId planned) start
  return (loop.db, loop.outcome)

/-! ### Sampling -/

/-- A sampled index is one of the list: the factors are rounded by too little to reach `n`. -/
theorem sampleIndex_lt {n i : ℕ} (hn : 0 < n) (hi : i < maxPingsPerLeg) :
    sampleIndex n maxPingsPerLeg i < n := by
  have hn' : (0 : ℚ) < n := by exact_mod_cast hn
  have hi' : (i : ℚ) ≤ 99 := by
    have : i ≤ 99 := Nat.le_pred_of_lt hi
    exact_mod_cast this
  have hstep : Double.round ((n : ℚ) / 100) ≤ n / 100 * (1 + 1 / 2 ^ 53) :=
    Double.round_le (by positivity)
  have hnonneg : 0 ≤ Double.round ((n : ℚ) / 100) := Double.round_nonneg (by positivity)
  have hproduct : (i : ℚ) * Double.round (n / 100) ≤ 99 * (n / 100 * (1 + 1 / 2 ^ 53)) :=
    mul_le_mul hi' hstep hnonneg (by norm_num)
  have hvalue : Double.round (i * Double.round (n / 100)) < n := by
    calc Double.round (i * Double.round (n / 100))
        ≤ i * Double.round (n / 100) * (1 + 1 / 2 ^ 53) := Double.round_le (by positivity)
      _ ≤ 99 * (n / 100 * (1 + 1 / 2 ^ 53)) * (1 + 1 / 2 ^ 53) := by gcongr
      _ < n := by nlinarith
  rw [sampleIndex, Nat.floor_lt' hn.ne']
  exact_mod_cast hvalue

/-- Every sampled index is one of the list, so no lookup fails. -/
theorem lt_of_mem_sampledIndices {n i : ℕ} (hn : 0 < n)
    (hi : i ∈ sampledIndices n maxPingsPerLeg) : i < n := by
  rw [sampledIndices, List.mem_reverse, List.mem_dedup, List.mem_reverse] at hi
  obtain ⟨j, hj, rfl⟩ := List.mem_map.mp hi
  exact sampleIndex_lt hn (List.mem_range.mp hj)

variable {α : Type}

theorem sampledPoints_subset (points : List α) (maxSize : ℕ) :
    sampledPoints points maxSize ⊆ points := by
  intro a ha
  obtain ⟨i, -, hi⟩ := List.mem_filterMap.mp ha
  exact List.mem_of_getElem? hi

theorem length_sampledPoints_le (points : List α) (maxSize : ℕ) :
    (sampledPoints points maxSize).length ≤ maxSize := by
  calc (sampledPoints points maxSize).length
      ≤ (sampledIndices points.length maxSize).length := List.length_filterMap_le _ _
    _ ≤ ((List.range maxSize).map (sampleIndex points.length maxSize)).reverse.length := by
        rw [sampledIndices, List.length_reverse]
        exact (List.dedup_sublist _).length_le
    _ = maxSize := by simp

/-- Every point kept is one of the points. -/
theorem downsample_subset (points : List α) (maxSize : ℕ) : downsample points maxSize ⊆ points := by
  intro a ha
  rw [downsample] at ha
  split at ha
  · exact ha
  · split at ha
    · exact sampledPoints_subset points maxSize ha
    · rcases List.mem_append.mp ha with h | h
      · exact sampledPoints_subset points maxSize h
      · exact List.mem_of_getLast? (Option.mem_toList.mp h)

theorem downsample_eq_self {points : List α} {maxSize : ℕ} (h : points.length ≤ maxSize) :
    downsample points maxSize = points :=
  if_pos h

/-- No more points are kept than there are. -/
theorem length_downsample_le (points : List α) (maxSize : ℕ) :
    (downsample points maxSize).length ≤ points.length := by
  have hsampled := length_sampledPoints_le points maxSize
  have hlast : points.getLast?.toList.length ≤ 1 := by
    cases points.getLast? <;> simp
  rw [downsample]
  split
  · exact le_rfl
  · split
    · omega
    · rw [List.length_append]
      omega

end SwCouriers.RouteGeometry
