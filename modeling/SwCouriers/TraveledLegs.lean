import SwCouriers.RouteGeometry
import SwCouriers.Lib.Windows

/-!
# The Pings of the Driven Legs

Each leg of a driven route takes the pings between the arrival at the stop before and the
arrival at its own stop. The windows hold both ends, and a missing arrival opens the window
before it and the one after it. So a ping can be driven twice, and `DrivenOnce` says when no
ping of the route is.

## Main results

* `legs_spec`: the outcomes of a history are those of the legs between the located stops.
* `each_ping_driven_once`: when the legs of a history share no ping.
-/

namespace SwCouriers.RouteGeometry

open Checked

/-! ### The legs of a route -/

/-- The legs that the loop builds, from the stops that are left. -/
def legsFrom (planned : List PlannedStop) (prevCoord : Option Coordinate)
    (prevTime : Option Instant) : List RouteStop → List Leg
  | [] => []
  | rs :: rest =>
      match planned.find? fun s => s.routeStopId = rs.id with
      | none => legsFrom planned prevCoord prevTime rest
      | some projected =>
          ⟨rs, prevCoord, projected.coordinate, prevTime, rs.actualArrival⟩
            :: legsFrom planned (some projected.coordinate) rs.actualArrival rest

/-- The legs of a route. -/
def legs (db : Tables) (routeId : Id) : List Leg :=
  legsFrom (plannedStops db routeId)
    (depotOrigin ((db.routes.find? routeId).bind (routeDepot db)))
    (routeStartEventAt db routeId) (routeStops db routeId)

/-- The pings in the window of a leg. -/
def windowPings (db : Tables) (routeId : Id) (leg : Leg) : List Ping :=
  pingsForWindow db routeId leg.prevTime leg.currTime

/-- The window of a leg. -/
def Leg.window (leg : Leg) : Option Instant × Option Instant := (leg.prevTime, leg.currTime)

/-- The arrivals at the stops of a route that have coordinates. -/
def locatedArrivals (db : Tables) (routeId : Id) : List (Option Instant) :=
  ((routeStops db routeId).filter fun rs => (plannedStop? db rs).isSome).map
    RouteStop.actualArrival

/-- The arrivals at the stops of a route do not decrease, where they are known. -/
def ArrivalsInOrder (db : Tables) (routeId : Id) : Prop :=
  Windows.InOrder ((routeStops db routeId).map RouteStop.actualArrival)

/-- For every ping, at most so many stops before the last have no arrival, or one at the very
time of the ping, as hold of these two: the ping is before the start of the route and not after
the first arrival; the ping is after the last arrival. -/
def DrivenOnce (db : Tables) (routeId : Id) : Prop :=
  ∀ p ∈ routePings db routeId,
    Windows.Once (routeStartEventAt db routeId) (locatedArrivals db routeId) p.occurredAt

instance (db : Tables) (routeId : Id) : Decidable (DrivenOnce db routeId) :=
  inferInstanceAs (Decidable (∀ p ∈ routePings db routeId, _))

variable {env : RouteEnv} {db : Tables} {routeId : Id}

theorem computeLegOutcome_pointCount {leg : Leg} {outcome : TraveledLegOutcome}
    (h : computeLegOutcome env db routeId leg = .ok outcome) :
    outcome.pointCount = (legPings db routeId leg).length := by
  obtain ⟨matched, -, h⟩ := bind_eq_ok.mp h
  cases matched with
  | some m0 => exact congrArg TraveledLegOutcome.pointCount (Except.ok.inj h).symm
  | none =>
      obtain ⟨fallback, -, h⟩ := bind_eq_ok.mp h
      cases fallback with
      | some routes => exact congrArg TraveledLegOutcome.pointCount (Except.ok.inj h).symm
      | none => exact congrArg TraveledLegOutcome.pointCount (Except.ok.inj h).symm

/-- A pass of the loop computes the next leg, if the stop has one. -/
theorem historyStep_eq_ok {planned : List PlannedStop} {loop loop' : HistoryLoop} {rs : RouteStop}
    (h : historyStep env db routeId planned loop rs = .ok loop') :
    (planned.find? (fun s => s.routeStopId = rs.id) = none ∧ loop' = loop) ∨
    ∃ projected outcome,
      planned.find? (fun s => s.routeStopId = rs.id) = some projected ∧
      computeLegOutcome env db routeId ⟨rs, loop.prevCoord, projected.coordinate, loop.prevTime,
        rs.actualArrival⟩ = .ok outcome ∧
      loop'.outcome.legs = loop.outcome.legs ++ [outcome] ∧
      loop'.outcome.totalPoints = loop.outcome.totalPoints + outcome.pointCount ∧
      loop'.prevCoord = some projected.coordinate ∧ loop'.prevTime = rs.actualArrival := by
  rw [historyStep] at h
  split at h
  · rename_i hfind
    exact .inl ⟨hfind, (Except.ok.inj h).symm⟩
  · rename_i projected hfind
    obtain ⟨outcome, houtcome, h⟩ := bind_eq_ok.mp h
    obtain rfl := Except.ok.inj h
    exact .inr ⟨projected, outcome, hfind, houtcome, rfl, rfl, rfl, rfl⟩

/-- What the loop adds: one outcome for each leg, and their points. -/
theorem foldlM_historyStep {planned : List PlannedStop} {loop loop' : HistoryLoop}
    {rows : List RouteStop}
    (h : rows.foldlM (historyStep env db routeId planned) loop = .ok loop') :
    ∃ outcomes,
      List.Forall₂ (fun leg outcome => computeLegOutcome env db routeId leg = .ok outcome)
        (legsFrom planned loop.prevCoord loop.prevTime rows) outcomes ∧
      loop'.outcome.legs = loop.outcome.legs ++ outcomes ∧
      loop'.outcome.totalPoints =
        loop.outcome.totalPoints + (outcomes.map TraveledLegOutcome.pointCount).sum := by
  induction rows generalizing loop with
  | nil =>
      obtain rfl := Except.ok.inj h
      exact ⟨[], .nil, by simp, by simp⟩
  | cons rs rows ih =>
      rw [List.foldlM_cons] at h
      obtain ⟨next, hstep, hrest⟩ := bind_eq_ok.mp h
      obtain ⟨outcomes, hlegs, hall, htotal⟩ := ih hrest
      rcases historyStep_eq_ok hstep with ⟨hfind, rfl⟩ |
        ⟨projected, outcome, hfind, houtcome, hnext, hpoints, hcoord, htime⟩
      · refine ⟨outcomes, ?_, hall, htotal⟩
        rwa [legsFrom, hfind]
      · refine ⟨outcome :: outcomes, ?_, ?_, ?_⟩
        · rw [legsFrom, hfind]
          rw [hcoord, htime] at hlegs
          exact .cons houtcome hlegs
        · rw [hall, hnext, List.append_assoc, List.singleton_append]
        · rw [htotal, hpoints, List.map_cons, List.sum_cons, Nat.add_assoc]

/-- **The legs of a history**: its outcomes are those of the route's legs, one by one, and its
points are theirs. -/
theorem legs_spec {db' : Tables} {history : TraveledHistoryOutcome}
    (h : computeTraveledHistory env db routeId = .ok (db', history)) :
    List.Forall₂ (fun leg outcome => computeLegOutcome env db routeId leg = .ok outcome)
      (legs db routeId) history.legs ∧
    history.totalPoints =
      ((legs db routeId).map fun leg => (legPings db routeId leg).length).sum := by
  obtain ⟨⟨route, planned, depot⟩, hcontext, hchecks⟩ := bind_eq_ok.mp h
  obtain ⟨-, -, hbody⟩ := bind_eq_ok.mp hchecks
  obtain ⟨loop, hloop, hdone⟩ := bind_eq_ok.mp hbody
  obtain ⟨route', hroute, hcontext⟩ := orRaise_bind_eq_ok.mp hcontext
  obtain ⟨rfl, rfl, rfl⟩ : route' = route ∧ plannedStops db routeId = planned ∧
      routeDepot db route' = depot := by simpa using Except.ok.inj hcontext
  obtain ⟨-, rfl⟩ : loop.db = db' ∧ loop.outcome = history := by
    simpa using Except.ok.inj hdone
  have hlegs : legs db routeId = legsFrom (plannedStops db routeId)
      (depotOrigin (routeDepot db route')) (routeStartEventAt db routeId)
      (routeStops db routeId) := by
    rw [legs, hroute, Option.bind_some]
  obtain ⟨outcomes, hall, hout, htotal⟩ := foldlM_historyStep hloop
  rw [← hlegs] at hall
  obtain rfl : loop.outcome.legs = outcomes := by simpa using hout
  refine ⟨hall, ?_⟩
  have hcounts : (legs db routeId).map (fun leg => (legPings db routeId leg).length) =
      loop.outcome.legs.map TraveledLegOutcome.pointCount := by
    refine List.forall₂_eq_eq_eq ▸ ?_
    rw [List.forall₂_map_left_iff, List.forall₂_map_right_iff]
    exact hall.imp fun leg outcome houtcome => (computeLegOutcome_pointCount houtcome).symm
  rw [htotal, hcounts, Nat.zero_add]

/-! ### The windows of the legs -/

theorem mem_routeStops {rs : RouteStop} :
    rs ∈ routeStops db routeId ↔ rs ∈ db.routeStops.rows ∧ rs.routeId = routeId := by
  simp [routeStops]

/-- The projection that the loop looks up for a stop is the stop's own. -/
theorem find?_plannedStops {rs : RouteStop} (hrs : rs ∈ routeStops db routeId) :
    (plannedStops db routeId).find? (fun s => s.routeStopId = rs.id) = plannedStop? db rs := by
  have hid : ∀ {rs' : RouteStop} {s : PlannedStop}, plannedStop? db rs' = some s →
      s.routeStopId = rs'.id := by
    intro rs' s hs
    obtain ⟨c, -, rfl⟩ := Option.map_eq_some_iff.mp hs
    rfl
  cases hplanned : plannedStop? db rs with
  | none =>
      rw [List.find?_eq_none]
      intro s hs hsame
      obtain ⟨rs', hrs', hs'⟩ := List.mem_filterMap.mp hs
      have hsameId : rs'.id = rs.id := (hid hs').symm.trans (of_decide_eq_true hsame)
      rw [Table.eq_of_key (mem_routeStops.mp hrs').1 (mem_routeStops.mp hrs).1 hsameId,
        hplanned] at hs'
      exact absurd hs' (by simp)
  | some s =>
      have hmem : s ∈ plannedStops db routeId := List.mem_filterMap.mpr ⟨rs, hrs, hplanned⟩
      obtain ⟨s', hs'⟩ : ∃ s', (plannedStops db routeId).find?
          (fun s => s.routeStopId = rs.id) = some s' := by
        rw [← Option.isSome_iff_exists, List.find?_isSome]
        exact ⟨s, hmem, decide_eq_true (hid hplanned)⟩
      obtain ⟨rs', hrs', hplanned'⟩ := List.mem_filterMap.mp (List.mem_of_find?_eq_some hs')
      have hfound : s'.routeStopId = rs.id := by simpa using List.find?_some hs'
      have hsameId : rs'.id = rs.id := (hid hplanned').symm.trans hfound
      rw [Table.eq_of_key (mem_routeStops.mp hrs').1 (mem_routeStops.mp hrs).1 hsameId,
        hplanned] at hplanned'
      rw [hs', hplanned']

/-- The windows of the legs are a chain through the arrivals at located stops. -/
theorem map_window_legsFrom (prevCoord : Option Coordinate) (prevTime : Option Instant)
    {rows : List RouteStop} (hrows : ∀ rs ∈ rows, rs ∈ routeStops db routeId) :
    (legsFrom (plannedStops db routeId) prevCoord prevTime rows).map Leg.window =
      Windows.chain prevTime ((rows.filter fun rs => (plannedStop? db rs).isSome).map
        RouteStop.actualArrival) := by
  induction rows generalizing prevCoord prevTime with
  | nil => rfl
  | cons rs rows ih =>
      have hrest := fun rs' hrs' => hrows rs' (List.mem_cons_of_mem rs hrs')
      rw [legsFrom, find?_plannedStops (hrows rs List.mem_cons_self)]
      cases hplanned : plannedStop? db rs with
      | none =>
          rw [List.filter_cons_of_neg (by simp [hplanned])]
          exact ih prevCoord prevTime hrest
      | some s =>
          rw [List.filter_cons_of_pos (by simp [hplanned]), List.map_cons, List.map_cons,
            Windows.chain]
          exact congrArg _ (ih _ _ hrest)

theorem map_window_legs (db : Tables) (routeId : Id) :
    (legs db routeId).map Leg.window =
      Windows.chain (routeStartEventAt db routeId) (locatedArrivals db routeId) :=
  map_window_legsFrom _ _ fun _ h => h

theorem locatedArrivals_inOrder (h : ArrivalsInOrder db routeId) :
    Windows.InOrder (locatedArrivals db routeId) :=
  h.sublist (List.filter_sublist.map RouteStop.actualArrival)

theorem mem_windowPings {leg : Leg} {p : Ping} :
    p ∈ windowPings db routeId leg ↔
      p ∈ routePings db routeId ∧ Windows.Contains p.occurredAt leg.window := by
  obtain ⟨rs, prevCoord, currCoord, prevTime, currTime⟩ := leg
  cases prevTime <;> cases currTime <;>
    simp [windowPings, pingsForWindow, inWindow, Windows.Contains, Leg.window]

/-! ### Legs that share no ping -/

/-- **When the windows of the legs share no ping.** -/
theorem pairwise_disjoint_windowPings_iff (h : ArrivalsInOrder db routeId) :
    ((legs db routeId).map (windowPings db routeId)).Pairwise List.Disjoint
      ↔ DrivenOnce db routeId := by
  have hswap : ((legs db routeId).map (windowPings db routeId)).Pairwise List.Disjoint ↔
      ∀ p ∈ routePings db routeId, (legs db routeId).Pairwise fun a b =>
        ¬ (Windows.Contains p.occurredAt a.window ∧ Windows.Contains p.occurredAt b.window) := by
    rw [List.pairwise_map]
    constructor
    · intro hall p hp
      refine hall.imp fun hdisjoint hboth => ?_
      exact hdisjoint (mem_windowPings.mpr ⟨hp, hboth.1⟩) (mem_windowPings.mpr ⟨hp, hboth.2⟩)
    · intro hall
      rw [List.pairwise_iff_forall_sublist]
      intro a b hab p ha hb
      obtain ⟨hp, ha⟩ := mem_windowPings.mp ha
      exact List.pairwise_iff_forall_sublist.mp (hall p hp) hab ⟨ha, (mem_windowPings.mp hb).2⟩
  rw [hswap]
  refine forall₂_congr fun p _ => ?_
  rw [← Windows.pairwise_chain_iff (locatedArrivals_inOrder h), ← map_window_legs,
    List.pairwise_map]

theorem nodup_routePings (db : Tables) (routeId : Id) : (routePings db routeId).Nodup := by
  have hevent : ∀ {e : RouteEvent} {p : Ping}, ping? routeId e = some p → p.event = e.id := by
    intro e p hp
    simp only [ping?, Option.bind_eq_bind, Option.bind_eq_some_iff] at hp
    obtain ⟨-, -, lat, -, lng, -, hp⟩ := hp
    obtain rfl := Option.some.inj hp
    rfl
  rw [routePings, List.Nodup, List.pairwise_filterMap]
  refine (List.pairwise_map.mp db.routeEvents.nodup).imp ?_
  intro e e' hne p hp p' hp' hsame
  exact hne (by rw [← hevent hp, ← hevent hp', hsame])

/-- Legs that share no ping have no more points than there are pings. -/
theorem sum_points_le
    (h : ((legs db routeId).map (windowPings db routeId)).Pairwise List.Disjoint) :
    ((legs db routeId).map fun leg => (legPings db routeId leg).length).sum ≤
      (routePings db routeId).length := by
  have hnodup : ((legs db routeId).map (windowPings db routeId)).flatten.Nodup := by
    rw [List.nodup_flatten]
    refine ⟨fun pings hpings => ?_, h⟩
    obtain ⟨leg, -, rfl⟩ := List.mem_map.mp hpings
    exact (List.perm_insertionSort _ _).nodup_iff.mpr ((nodup_routePings db routeId).filter _)
  have hsubset : ((legs db routeId).map (windowPings db routeId)).flatten ⊆
      routePings db routeId := by
    intro p hp
    obtain ⟨pings, hpings, hp⟩ := List.mem_flatten.mp hp
    obtain ⟨leg, -, rfl⟩ := List.mem_map.mp hpings
    exact (mem_windowPings.mp hp).1
  calc ((legs db routeId).map fun leg => (legPings db routeId leg).length).sum
      ≤ ((legs db routeId).map fun leg => (windowPings db routeId leg).length).sum :=
        List.sum_le_sum fun leg _ => length_downsample_le _ _
    _ = ((legs db routeId).map (windowPings db routeId)).flatten.length := by
        rw [List.length_flatten, List.map_map]
        rfl
    _ ≤ (routePings db routeId).length := (hnodup.subperm hsubset).length_le

/-- **When each ping is driven once.** For every history of a route whose known arrivals do not
decrease: the windows of its legs share no ping exactly when `DrivenOnce` holds. Then the pings
the legs use are disjoint too and the history has no more points than the route has pings, and
where no window is so long that it is sampled, they are disjoint only then. -/
theorem each_ping_driven_once {env : RouteEnv} {db db' : Tables} {routeId : Id}
    {history : TraveledHistoryOutcome}
    (h : computeTraveledHistory env db routeId = .ok (db', history))
    (horder : ArrivalsInOrder db routeId) :
    List.Forall₂ (fun leg outcome => computeLegOutcome env db routeId leg = .ok outcome)
      (legs db routeId) history.legs ∧
    (((legs db routeId).map (windowPings db routeId)).Pairwise List.Disjoint
      ↔ DrivenOnce db routeId) ∧
    (DrivenOnce db routeId →
      ((legs db routeId).map (legPings db routeId)).Pairwise List.Disjoint ∧
      history.totalPoints ≤ (routePings db routeId).length) ∧
    ((∀ leg ∈ legs db routeId, (windowPings db routeId leg).length ≤ maxPingsPerLeg) →
      (((legs db routeId).map (legPings db routeId)).Pairwise List.Disjoint
        ↔ DrivenOnce db routeId)) := by
  obtain ⟨houtcomes, hpoints⟩ := legs_spec h
  have hwindows := pairwise_disjoint_windowPings_iff horder
  refine ⟨houtcomes, hwindows, fun honce => ⟨?_, ?_⟩, fun hshort => ?_⟩
  · rw [List.pairwise_map]
    refine (List.pairwise_map.mp (hwindows.mpr honce)).imp fun hdisjoint p ha hb => ?_
    exact hdisjoint (downsample_subset _ _ ha) (downsample_subset _ _ hb)
  · rw [hpoints]
    exact sum_points_le (hwindows.mpr honce)
  · have hsame : (legs db routeId).map (legPings db routeId) =
        (legs db routeId).map (windowPings db routeId) :=
      List.map_congr_left fun leg hleg => downsample_eq_self (hshort leg hleg)
    rw [hsame, hwindows]

/-! ### A route with two stops -/

/-- A stop of route 1 at the delivery stop of its number. -/
def demoStop (id : Id) (sequence : ℤ) (actualArrival : Option Instant) : RouteStop :=
  ⟨id, 1, some id, none, sequence, actualArrival, none, none, none, none, none, none⟩

/-- A ping of route 1. -/
def demoPing (id : Id) (occurredAt : Instant) : RouteEvent :=
  ⟨id, 1, "LOCATION_PING", occurredAt, some 51, some 0⟩

/-- Route 1 starts at time 0 and has two stops, reached at 10 and at 20; two pings were sent. -/
def demoTables (ping ping' : Instant) : Tables where
  routes := Table.empty.insert ⟨1, none, none⟩
  routePlans := Table.empty
  drivers := Table.empty
  depots := Table.empty
  deliveryStops := (Table.empty.insert ⟨1, some 51, some 0⟩).insert ⟨2, some 52, some 0⟩
  orders := Table.empty
  pickupAddresses := Table.empty
  routeStops := (Table.empty.insert (demoStop 1 1 (some 10))).insert (demoStop 2 2 (some 20))
  routeEvents := ((Table.empty.insert ⟨1, 1, "ROUTE_STARTED", 0, none, none⟩).insert
    (demoPing 2 ping)).insert (demoPing 3 ping')

/-- An engine that answers with nothing. -/
def blankEngine : RouteEnv := withEngine (fun _ => .ok []) (fun _ => .ok [])

/-- With a ping on each way, no ping is driven twice. -/
theorem pings_between_arrivals_driven_once :
    ∃ db' history, computeTraveledHistory blankEngine (demoTables 5 15) 1 = .ok (db', history) ∧
      DrivenOnce (demoTables 5 15) 1 ∧
      ((legs (demoTables 5 15) 1).map (legPings (demoTables 5 15) 1)).Pairwise List.Disjoint ∧
      history.totalPoints ≤ 2 := by
  have hrun : computeTraveledHistory blankEngine (demoTables 5 15) 1 = .ok (_, _) := rfl
  have hordered : ArrivalsInOrder (demoTables 5 15) 1 := by
    simp [ArrivalsInOrder, Windows.InOrder, show (routeStops (demoTables 5 15) 1).map
      RouteStop.actualArrival = [some 10, some 20] from rfl]
  have honce : DrivenOnce (demoTables 5 15) 1 := by decide +kernel
  have hall := (each_ping_driven_once hrun hordered).2.2.1 honce
  exact ⟨_, _, hrun, honce, hall.1, hall.2⟩

/-- A ping at the very arrival is driven twice, in the leg that ends and in the one that
starts there. -/
theorem ping_at_arrival_driven_twice :
    ∃ env db routeId db' history, computeTraveledHistory env db routeId = .ok (db', history) ∧
      ArrivalsInOrder db routeId ∧
      ¬ ((legs db routeId).map (legPings db routeId)).Pairwise List.Disjoint ∧
      (routePings db routeId).length < history.totalPoints := by
  refine ⟨blankEngine, demoTables 10 15, 1, _, _, rfl, ?_, ?_, ?_⟩
  · simp [ArrivalsInOrder, Windows.InOrder, show (routeStops (demoTables 10 15) 1).map
      RouteStop.actualArrival = [some 10, some 20] from rfl]
  · have hlegs : (legs (demoTables 10 15) 1).map (legPings (demoTables 10 15) 1) =
        [[⟨2, 51, 0, 10⟩], [⟨2, 51, 0, 10⟩, ⟨3, 51, 0, 15⟩]] := rfl
    rw [hlegs]
    simp
  · decide +kernel

end SwCouriers.RouteGeometry
