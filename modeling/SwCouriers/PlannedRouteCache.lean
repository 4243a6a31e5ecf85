import SwCouriers.RouteGeometry
import SwCouriers.Lib.Runs

/-!
# Coherence of the Planned Route Cache

A planned line is cached under a digest of the sequences and identifiers of the route's located
stops. The line itself depends on where these stops are, and on the depot, and neither is part
of the key. So a request is answered from the cache with a line that was computed for other
coordinates, once a stop or the depot was moved. Where the stops and their depots stay in place
the cache is coherent: the digested text determines the stops, and these the coordinates.

## Main results

* `fingerprintText_injective`: the digested text determines the sequences and identifiers.
* `planned_cache_coherent`: every hit of a run is current if stops and depots stay in place, and
  a moved one makes a hit that is not.
-/

namespace SwCouriers.RouteGeometry

open Checked Runs

/-! ### Runs of edits and requests -/

/-- The database and Redis. -/
structure CacheState where
  db : Tables
  redis : Redis

/-- What happens: the tables are edited, a planned line is asked for, or Redis drops a key. -/
inductive CacheOp where
  | edit (db : Tables)
  | get (redisUp : Bool) (now : Instant) (routeId : Id)
  | expire (key : String)

/-- The answer to a request, with what Redis holds afterwards. -/
def CacheState.answer (env : RouteEnv) (s : CacheState) (redisUp : Bool) (now : Instant)
    (routeId : Id) : Except ServiceError (Redis × PlannedGeometry) :=
  getOrComputePlannedGeometry env redisUp now s.redis s.db routeId

/-- The state after an operation. A request that fails writes nothing. -/
def cacheStep (env : RouteEnv) (s : CacheState) : CacheOp → CacheState
  | .edit db => { s with db := db }
  | .get redisUp now routeId =>
      match s.answer env redisUp now routeId with
      | .ok (redis, _) => { s with redis := redis }
      | .error _ => s
  | .expire key => { s with redis := Function.update s.redis key none }

/-- The coordinates of a route as they are now. -/
def currentCoordinates (db : Tables) (routeId : Id) : List Coordinate :=
  plannedCoordinates (plannedStops db routeId) ((db.routes.find? routeId).bind (routeDepot db))

/-- The stops of a route as its key sees them. -/
def keyPairs (db : Tables) (routeId : Id) : List (ℤ × Id) :=
  (plannedStops db routeId).map fun s => (s.sequence, s.routeStopId)

/-- An answer from the cache is the line that the engine gives for the current coordinates. -/
def HitCurrent (env : RouteEnv) (s : CacheState) : CacheOp → Prop
  | .get redisUp now routeId => ∀ redis geometry,
      s.answer env redisUp now routeId = .ok (redis, geometry) → geometry.cacheHit = true →
      ∃ routes, env.route (currentCoordinates s.db routeId) = .ok routes ∧
        geometry.toPlannedLine = plannedLine routes
  | _ => True

/-- The stops of the route asked for are where `place` says, and its depot is where `origin`
says for each of them. -/
def InPlace (place : Id → Coordinate) (origin : Id → Option Coordinate) (s : CacheState) :
    CacheOp → Prop
  | .get _ _ routeId => ∀ stop ∈ plannedStops s.db routeId,
      stop.coordinate = place stop.routeStopId ∧
      depotOrigin ((s.db.routes.find? routeId).bind (routeDepot s.db)) = origin stop.routeStopId
  | _ => True

/-- The text digested for a request is one of `texts`. -/
def TextIn (env : RouteEnv) (texts : Set String) (s : CacheState) : CacheOp → Prop
  | .get _ _ routeId => fingerprintText env (keyPairs s.db routeId) ∈ texts
  | _ => True

/-! ### The key -/

theorem entryText_injective (env : RouteEnv) : Function.Injective (entryText env) := by
  rintro ⟨m, a⟩ ⟨n, b⟩ h
  have hlists : (toString m).toList ++ ':' :: (env.idText a).toList =
      (toString n).toList ++ ':' :: (env.idText b).toList := by
    simpa [entryText] using congrArg String.toList h
  have hcolon : ∀ k : ℤ, ':' ∉ (toString k).toList :=
    Decimal.notMem_toString_int (by decide) (by decide)
  have hseq : (toString m).toList = (toString n).toList := by
    rw [← Decimal.takeWhile_ne_append_cons (hcolon m), hlists,
      Decimal.takeWhile_ne_append_cons (hcolon n)]
  rw [hseq, List.append_cancel_left_eq, List.cons.injEq] at hlists
  have hm : m = n := Decimal.toString_int_injective (String.toList_injective hseq)
  rw [hm, env.idText_injective (String.toList_injective hlists.2)]

theorem comma_notMem_entryText (env : RouteEnv) (pair : ℤ × Id) :
    ',' ∉ (entryText env pair).toList := by
  rw [entryText, String.toList_append, String.toList_append, List.mem_append, List.mem_append]
  rintro ((hseq | hcolon) | hid)
  · exact Decimal.notMem_toString_int (by decide) (by decide) pair.1 hseq
  · exact absurd hcolon (by decide)
  · exact env.comma_notMem_idText pair.2 hid

/-- **The digested text determines the stops**, in the order of their sequence. -/
theorem fingerprintText_injective {env : RouteEnv} {pairs pairs' : List (ℤ × Id)}
    (hne : pairs ≠ []) (hne' : pairs' ≠ []) (hsorted : pairs.Pairwise fun a b => a.1 ≤ b.1)
    (hsorted' : pairs'.Pairwise fun a b => a.1 ≤ b.1)
    (h : fingerprintText env pairs = fingerprintText env pairs') : pairs = pairs' := by
  have hlists : ∀ {l : List (ℤ × Id)}, l ≠ [] → (l.Pairwise fun a b => a.1 ≤ b.1) →
      (fingerprintText env l).toList.splitOn ',' =
        l.map fun pair => (entryText env pair).toList := by
    intro l hl hl'
    rw [fingerprintText, hl'.insertionSort_eq, String.toList_intercalate, List.map_map]
    refine List.splitOn_intercalate ',' ?_ (by simpa using hl)
    intro text htext
    obtain ⟨pair, -, rfl⟩ := List.mem_map.mp htext
    exact comma_notMem_entryText env pair
  have hmaps := hlists hne hsorted
  rw [h, hlists hne' hsorted'] at hmaps
  refine List.map_injective_iff.mpr ?_ hmaps.symm
  exact fun a b hab => entryText_injective env (String.toList_injective hab)

/-- The stops are listed in the order of their sequence. -/
theorem keyPairs_sorted (db : Tables) (routeId : Id) :
    (keyPairs db routeId).Pairwise fun a b => a.1 ≤ b.1 := by
  have hseq : ∀ {rs : RouteStop} {s : PlannedStop}, plannedStop? db rs = some s →
      s.sequence = rs.sequence := by
    intro rs s hs
    obtain ⟨c, -, rfl⟩ := Option.map_eq_some_iff.mp hs
    rfl
  have hrows : (routeStops db routeId).Pairwise fun a b => a.sequence ≤ b.sequence :=
    List.pairwise_insertionSort (fun a b : RouteStop => a.sequence ≤ b.sequence) _
  rw [keyPairs, List.pairwise_map, plannedStops, List.pairwise_filterMap]
  refine hrows.imp fun {a b} hab s hs s' hs' => ?_
  rw [hseq hs, hseq hs']
  exact hab

/-! ### What a request does -/

/-- The coordinates of the stops of a key, and of the depot of the first. -/
def coordinatesOf (place : Id → Coordinate) (origin : Id → Option Coordinate)
    (pairs : List (ℤ × Id)) : List Coordinate :=
  (pairs.head?.bind fun pair => origin pair.2).toList ++ pairs.map fun pair => place pair.2

/-- Where stops and depot are in place, the key tells the coordinates. -/
theorem currentCoordinates_eq {place : Id → Coordinate} {origin : Id → Option Coordinate}
    {s : CacheState} {redisUp : Bool} {now : Instant} {routeId : Id}
    (h : InPlace place origin s (.get redisUp now routeId)) (hne : keyPairs s.db routeId ≠ []) :
    currentCoordinates s.db routeId = coordinatesOf place origin (keyPairs s.db routeId) := by
  have hstops : (plannedStops s.db routeId).map PlannedStop.coordinate =
      (keyPairs s.db routeId).map fun pair => place pair.2 := by
    rw [keyPairs, List.map_map]
    exact List.map_congr_left fun stop hstop => (h stop hstop).1
  have hdepot : depotOrigin ((s.db.routes.find? routeId).bind (routeDepot s.db)) =
      (keyPairs s.db routeId).head?.bind fun pair => origin pair.2 := by
    cases hplanned : plannedStops s.db routeId with
    | nil => exact absurd (by rw [keyPairs, hplanned, List.map_nil]) hne
    | cons stop rest =>
        rw [keyPairs, hplanned, List.map_cons, List.head?_cons, Option.bind_some]
        exact (h stop (by rw [hplanned]; exact List.mem_cons_self)).2
  rw [currentCoordinates, plannedCoordinates, hstops, hdepot, coordinatesOf]

/-- The fingerprint of a route as it is now. -/
def fingerprintOf (env : RouteEnv) (db : Tables) (routeId : Id) : String :=
  computeRouteNavigationFingerprint env (keyPairs db routeId)

/-- **What a successful request did**: it returned the cached payload, or it asked the engine
for the current coordinates and cached the answer. -/
theorem answer_eq_ok {env : RouteEnv} {s : CacheState} {redisUp : Bool} {now : Instant}
    {routeId : Id} {redis : Redis} {geometry : PlannedGeometry}
    (h : s.answer env redisUp now routeId = .ok (redis, geometry)) :
    keyPairs s.db routeId ≠ [] ∧
    ((∃ cached, readPlannedCache redisUp s.redis (fingerprintOf env s.db routeId) = some cached ∧
        redis = s.redis ∧ geometry.cacheHit = true ∧
        geometry.toPlannedLine = { cached.toPlannedLine with geometryFormat :=
          if cached.geometryFormat = "" then "polyline" else cached.geometryFormat }) ∨
      ∃ routes, readPlannedCache redisUp s.redis (fingerprintOf env s.db routeId) = none ∧
        env.route (currentCoordinates s.db routeId) = .ok routes ∧
        redis = writePlannedCache redisUp s.redis (fingerprintOf env s.db routeId)
          { plannedLine routes with computedAt := now } ∧
        geometry.cacheHit = false ∧ geometry.toPlannedLine = plannedLine routes) := by
  obtain ⟨⟨route, planned, depot⟩, hcontext, hbody⟩ := bind_eq_ok.mp h
  obtain ⟨route', hroute, hcontext⟩ := orRaise_bind_eq_ok.mp hcontext
  obtain ⟨rfl, rfl, rfl⟩ : route' = route ∧ plannedStops s.db routeId = planned ∧
      routeDepot s.db route' = depot := by simpa using Except.ok.inj hcontext
  obtain ⟨_, hsome, hrest⟩ := bind_eq_ok.mp hbody
  have hcoordinates : currentCoordinates s.db routeId =
      plannedCoordinates (plannedStops s.db routeId) (routeDepot s.db route') := by
    rw [currentCoordinates, hroute, Option.bind_some]
  have hne : keyPairs s.db routeId ≠ [] := by
    rw [keyPairs, Ne, List.map_eq_nil_iff]
    exact raiseIf_eq_ok.mp hsome
  refine ⟨hne, ?_⟩
  dsimp only at hrest
  split at hrest
  · rename_i cached hcached
    obtain ⟨rfl, rfl⟩ := Prod.mk.inj (Except.ok.inj hrest)
    exact .inl ⟨cached, hcached, rfl, rfl, rfl⟩
  · rename_i hmiss
    obtain ⟨-, -, hrest⟩ := bind_eq_ok.mp hrest
    obtain ⟨routes, hroutes, hrest⟩ := bind_eq_ok.mp hrest
    obtain ⟨rfl, rfl⟩ := Prod.mk.inj (Except.ok.inj hrest)
    exact .inr ⟨routes, hmiss, hcoordinates ▸ hroutes, rfl, rfl, rfl⟩

/-- A request for a route whose fingerprint is cached is answered from the cache. -/
theorem answer_hit {env : RouteEnv} {s : CacheState} {redisUp : Bool} {now : Instant}
    {routeId : Id} {cached : PlannedPayload} (hroute : (s.db.routes.find? routeId).isSome)
    (hne : keyPairs s.db routeId ≠ [])
    (hread : readPlannedCache redisUp s.redis (fingerprintOf env s.db routeId) = some cached) :
    ∃ geometry, s.answer env redisUp now routeId = .ok (s.redis, geometry) ∧
      geometry.cacheHit = true := by
  obtain ⟨route, hroute⟩ := Option.isSome_iff_exists.mp hroute
  have hsome : plannedStops s.db routeId ≠ [] := fun hnil =>
    hne (by rw [keyPairs, hnil, List.map_nil])
  have hread' : readPlannedCache redisUp s.redis (computeRouteNavigationFingerprint env
      ((plannedStops s.db routeId).map fun s => (s.sequence, s.routeStopId))) = some cached :=
    hread
  rw [CacheState.answer, getOrComputePlannedGeometry, loadRouteContext, hroute]
  simp only [orRaise, ok_bind, pure_bind, raiseIf, if_neg hsome, hread']
  exact ⟨_, rfl, rfl⟩

/-! ### Coherence along a run -/

/-- A payload was computed for a list of stops, where they are in place, and the key is the
digest of their text. -/
def ComputedFor (env : RouteEnv) (place : Id → Coordinate) (origin : Id → Option Coordinate)
    (texts : Set String) (key : String) (payload : PlannedPayload) : Prop :=
  ∃ pairs routes, pairs ≠ [] ∧ (pairs.Pairwise fun a b => a.1 ≤ b.1) ∧
    fingerprintText env pairs ∈ texts ∧
    key = plannedCachePrefix ++ env.sha256 (fingerprintText env pairs) ∧
    env.route (coordinatesOf place origin pairs) = .ok routes ∧
    payload.toPlannedLine = plannedLine routes

/-- Redis holds nothing else. -/
def Cached (env : RouteEnv) (place : Id → Coordinate) (origin : Id → Option Coordinate)
    (texts : Set String) (redis : Redis) : Prop :=
  ∀ key payload, redis key = some payload → ComputedFor env place origin texts key payload

section Coherence

variable {env : RouteEnv} {place : Id → Coordinate} {origin : Id → Option Coordinate}
  {texts : Set String} {s : CacheState}

theorem cached_update {redis : Redis} {key : String} {value : Option PlannedPayload}
    (hcached : Cached env place origin texts redis)
    (hvalue : ∀ payload ∈ value, ComputedFor env place origin texts key payload) :
    Cached env place origin texts (Function.update redis key value) := by
  intro key' payload hkey
  by_cases hsame : key' = key
  · rw [hsame, Function.update_self] at hkey
    exact hsame ▸ hvalue payload hkey
  · rw [Function.update_of_ne hsame] at hkey
    exact hcached key' payload hkey

theorem cached_step {op : CacheOp} (hcached : Cached env place origin texts s.redis)
    (hplace : InPlace place origin s op) (htext : TextIn env texts s op) :
    Cached env place origin texts (cacheStep env s op).redis := by
  cases op with
  | edit db => exact hcached
  | expire key => exact cached_update hcached (by simp)
  | get redisUp now routeId =>
      rw [cacheStep]
      split
      · rename_i redis geometry hanswer
        obtain ⟨hne, ⟨cached, -, rfl, -⟩ | ⟨routes, -, hroutes, rfl, -⟩⟩ :=
          answer_eq_ok hanswer
        · exact hcached
        · rw [currentCoordinates_eq hplace hne] at hroutes
          rw [writePlannedCache]
          split
          · refine cached_update hcached ?_
            rintro _ ⟨⟩
            exact ⟨keyPairs s.db routeId, routes, hne, keyPairs_sorted s.db routeId, htext, rfl,
              hroutes, rfl⟩
          · exact hcached
      · exact hcached

/-- A hit finds the line of the very stops that are asked for. -/
theorem hitCurrent_of_cached {op : CacheOp} (hcached : Cached env place origin texts s.redis)
    (hplace : InPlace place origin s op) (htext : TextIn env texts s op)
    (hdigest : Set.InjOn env.sha256 texts) : HitCurrent env s op := by
  cases op with
  | edit db => trivial
  | expire key => trivial
  | get redisUp now routeId =>
      intro redis geometry hanswer hhit
      obtain ⟨hne, ⟨cached, hread, -, -, hline⟩ | ⟨routes, -, -, -, hmiss, -⟩⟩ :=
        answer_eq_ok hanswer
      · rw [readPlannedCache] at hread
        split at hread
        · obtain ⟨pairs, routes, hne', hsorted, htext', hkey, hroutes, hpayload⟩ :=
            hcached _ cached hread
          have hfingerprint : env.sha256 (fingerprintText env (keyPairs s.db routeId)) =
              env.sha256 (fingerprintText env pairs) := by
            have hlists := congrArg String.toList hkey
            rw [String.toList_append, String.toList_append] at hlists
            exact String.toList_injective (List.append_cancel_left hlists)
          have hpairs : keyPairs s.db routeId = pairs :=
            fingerprintText_injective hne hne' (keyPairs_sorted s.db routeId) hsorted
              (hdigest htext htext' hfingerprint)
          refine ⟨routes, ?_, ?_⟩
          · rw [currentCoordinates_eq hplace hne, hpairs]
            exact hroutes
          · rw [hline, hpayload]
            rfl
        · exact absurd hread (by simp)
      · rw [hmiss] at hhit
        exact absurd hhit (by decide)

/-- In a run where stops and depots stay in place, every hit is current. -/
theorem along_hitCurrent {ops : List CacheOp} (hdigest : Set.InjOn env.sha256 texts)
    (hcached : Cached env place origin texts s.redis)
    (htexts : Along (cacheStep env) (TextIn env texts) s ops)
    (hplaces : Along (cacheStep env) (InPlace place origin) s ops) :
    Along (cacheStep env) (HitCurrent env) s ops := by
  induction ops generalizing s with
  | nil => trivial
  | cons op ops ih =>
      exact ⟨hitCurrent_of_cached hcached hplaces.1 htexts.1 hdigest,
        ih (cached_step hcached hplaces.1 htexts.1) htexts.2 hplaces.2⟩

/-- A line that was cached for other coordinates under the same key is served. -/
theorem not_hitCurrent_of_moved {db₁ db₂ : Tables} {r₁ r₂ : Id} {t₁ t₂ : Instant}
    {redis : Redis} {geometry : PlannedGeometry}
    (hanswer : CacheState.answer env ⟨db₁, fun _ => none⟩ true t₁ r₁ = .ok (redis, geometry))
    (hroute : (db₂.routes.find? r₂).isSome) (hpairs : keyPairs db₂ r₂ = keyPairs db₁ r₁)
    (hmoved : ∀ routes, env.route (currentCoordinates db₂ r₂) = .ok routes →
      plannedLine routes ≠ geometry.toPlannedLine) :
    ¬ HitCurrent env ⟨db₂, redis⟩ (.get true t₂ r₂) := by
  obtain ⟨hne, ⟨cached, hread, -⟩ | ⟨routes, -, -, hredis, -, hline⟩⟩ := answer_eq_ok hanswer
  · exact absurd hread (by simp [readPlannedCache])
  · have hfound : readPlannedCache true redis (fingerprintOf env db₂ r₂) =
        some { plannedLine routes with computedAt := t₁ } := by
      simp [hredis, readPlannedCache, writePlannedCache, fingerprintOf, hpairs]
    obtain ⟨geometry', hanswer', hhit⟩ : ∃ geometry',
        CacheState.answer env ⟨db₂, redis⟩ true t₂ r₂ = .ok (redis, geometry') ∧
        geometry'.cacheHit = true := answer_hit hroute (hpairs ▸ hne) hfound
    intro hcurrent
    obtain ⟨routes', hroutes', hline'⟩ := hcurrent redis geometry' hanswer' hhit
    obtain ⟨-, ⟨cached, hread, -, -, hserved⟩ | ⟨-, hread, -⟩⟩ := answer_eq_ok hanswer'
    · obtain rfl : _ = cached := Option.some.inj (hfound.symm.trans hread)
      refine hmoved routes' hroutes' ?_
      rw [← hline', hserved, hline]
      rfl
    · exact absurd (hfound.symm.trans hread) (by simp)

end Coherence

/-- **Coherence of the planned route cache.** In every run of edits, requests and evictions
whose requests find each stop, and the depot of its route, where every other request of the run
finds them, every hit is what the engine gives for the current coordinates; `texts` are the
texts that the run digests, and no two of them have the same digest. Conversely, when an edit
keeps the sequences and identifiers of the stops while the engine's answer changes, the next
request is a hit that is not current. -/
theorem planned_cache_coherent (env : RouteEnv) :
    (∀ place origin texts db ops, Set.InjOn env.sha256 texts →
      Along (cacheStep env) (TextIn env texts) ⟨db, fun _ => none⟩ ops →
      Along (cacheStep env) (InPlace place origin) ⟨db, fun _ => none⟩ ops →
      Along (cacheStep env) (HitCurrent env) ⟨db, fun _ => none⟩ ops) ∧
    (∀ db₁ db₂ r₁ r₂ t₁ t₂ redis geometry,
      CacheState.answer env ⟨db₁, fun _ => none⟩ true t₁ r₁ = .ok (redis, geometry) →
      (db₂.routes.find? r₂).isSome → keyPairs db₂ r₂ = keyPairs db₁ r₁ →
      (∀ routes, env.route (currentCoordinates db₂ r₂) = .ok routes →
        plannedLine routes ≠ geometry.toPlannedLine) →
      ¬ Along (cacheStep env) (HitCurrent env) ⟨db₁, fun _ => none⟩
        [.get true t₁ r₁, .edit db₂, .get true t₂ r₂]) := by
  constructor
  · intro place origin texts db ops hdigest htexts hplaces
    exact along_hitCurrent hdigest (fun _ _ hkey => absurd hkey (by simp)) htexts hplaces
  · intro db₁ db₂ r₁ r₂ t₁ t₂ redis geometry hanswer hroute hpairs hmoved halong
    obtain ⟨-, -, hlast, -⟩ := halong
    have hstate : cacheStep env (cacheStep env ⟨db₁, fun _ => none⟩ (.get true t₁ r₁))
        (.edit db₂) = ⟨db₂, redis⟩ := by
      rw [cacheStep, cacheStep, hanswer]
    rw [hstate] at hlast
    exact not_hitCurrent_of_moved hanswer hroute hpairs hmoved hlast

/-! ### A route with two stops -/

/-- An engine whose distance is the sum of the latitudes. -/
def latitudeEngine : RouteEnv :=
  withEngine (fun coordinates =>
    .ok [⟨some "line", some (coordinates.map Coordinate.latitude).sum, none, []⟩])
    (fun _ => .ok [])

/-- Route 1 visits two delivery stops; the first is at the given latitude. -/
def twoStopTables (latitude : ℚ) : Tables where
  routes := Table.empty.insert ⟨1, none, none⟩
  routePlans := Table.empty
  drivers := Table.empty
  depots := Table.empty
  deliveryStops := (Table.empty.insert ⟨1, some latitude, some 0⟩).insert ⟨2, some 52, some 0⟩
  orders := Table.empty
  pickupAddresses := Table.empty
  routeStops := (Table.empty.insert
    ⟨1, 1, some 1, none, 1, none, none, none, none, none, none, none⟩).insert
    ⟨2, 1, some 2, none, 2, none, none, none, none, none, none, none⟩
  routeEvents := Table.empty

/-- Asked for twice in a row, a route is answered from the cache, with its current line. -/
theorem second_request_current :
    Along (cacheStep latitudeEngine) (HitCurrent latitudeEngine)
      ⟨twoStopTables 51, fun _ => none⟩ [.get true 0 1, .get true 1 1] := by
  refine (planned_cache_coherent latitudeEngine).1
    (fun id => if id = 1 then ⟨0, 51⟩ else ⟨0, 52⟩) (fun _ => none) Set.univ _ _
    (fun _ _ _ _ h => h) ⟨trivial, trivial, trivial⟩ ⟨?_, ?_, trivial⟩
  all_goals
    change ∀ stop ∈ plannedStops (twoStopTables 51) 1, _
    decide +kernel

/-- Moving the first stop between two requests leaves the old line in the answer, though no two
texts have the same digest. -/
theorem moved_stop_served_stale :
    Function.Injective latitudeEngine.sha256 ∧
    ¬ Along (cacheStep latitudeEngine) (HitCurrent latitudeEngine)
      ⟨twoStopTables 51, fun _ => none⟩
      [.get true 0 1, .edit (twoStopTables 50), .get true 1 1] := by
  refine ⟨fun _ _ h => h, fun halong => ?_⟩
  obtain ⟨-, -, hlast, -⟩ := halong
  obtain ⟨routes, hroutes, hline⟩ := hlast _ _ rfl rfl
  obtain rfl := Except.ok.inj hroutes
  exact absurd (congrArg PlannedLine.distanceM hline) (by decide +kernel)

end SwCouriers.RouteGeometry
