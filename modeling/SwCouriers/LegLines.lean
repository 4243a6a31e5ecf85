import SwCouriers.Downsampling

/-!
# The Lines of the Driven Legs

A driven leg is drawn from its pings, by matching them to the roads, or else between its two planned
points, by routing. Matching is tried from four pings on; routing is the fallback of a leg with
fewer than two. A leg with two or three pings has neither, and a leg whose pings are not matched has
no fallback.

## Main results

* `not_drawn_of_between`: two or three pings are not drawn.
* `drawn_iff_of_enough`: from four pings on a leg is drawn exactly if its pings are matched.
* `leg_drawn_iff`: **when a leg is drawn**, with an engine that always finds a route.
-/

namespace SwCouriers.RouteGeometry

open Checked

/-- Between any two points the engine finds a route, with its line. -/
def RouteEnv.FindsRoutes (env : RouteEnv) : Prop :=
  ∀ a b, ∃ first rest, env.route [a, b] = .ok (first :: rest) ∧ first.geometry.isSome = true

/-- The engine matches the pings to the roads, with a line. -/
def RouteEnv.Matches (env : RouteEnv) (pings : List Ping) : Prop :=
  ∃ m0 rest, env.matchTrace (pings.map Ping.coordinate) = .ok (some m0 :: rest) ∧
    m0.geometry.isSome = true

/-- The leg gets a line. -/
def Drawn (env : RouteEnv) (db : Tables) (routeId : Id) (leg : Leg) : Prop :=
  ∃ outcome, computeLegOutcome env db routeId leg = .ok outcome ∧
    outcome.encodedPolyline.isSome = true

variable {env : RouteEnv} {db : Tables} {routeId : Id} {leg : Leg}

/-! ### How many pings are left -/

/-- Sampling leaves few pings as they are, and many of many. -/
theorem le_length_legPings_iff {n : ℕ} (hn : n ≤ maxPingsPerLeg) :
    n ≤ (legPings db routeId leg).length ↔ n ≤ (windowPings db routeId leg).length := by
  rcases Nat.lt_or_ge maxPingsPerLeg (windowPings db routeId leg).length with hlt | hle
  · rw [length_legPings db routeId leg hlt]
    exact iff_of_true (hn.trans (Nat.le_succ _)) (hn.trans hlt.le)
  · rw [show legPings db routeId leg = windowPings db routeId leg from downsample_eq_self hle]

/-! ### The three kinds of legs -/

/-- A leg with too few pings is routed. -/
theorem drawn_of_few (henv : env.FindsRoutes) {prevCoord : Coordinate}
    (hprev : leg.prevCoord = some prevCoord)
    (hfew : (legPings db routeId leg).length < minPingsForFallback) :
    Drawn env db routeId leg := by
  obtain ⟨first, rest, hroute, hline⟩ := henv prevCoord leg.currCoord
  have hmatch : matchPings env (legPings db routeId leg) = .ok none :=
    if_neg (not_le.mpr (hfew.trans (by decide)))
  have hfallback :
      routeFallback env leg (legPings db routeId leg) = .ok (some (first :: rest)) := by
    simp only [routeFallback, hprev]
    rw [if_pos hfew, hroute]
    rfl
  refine ⟨fallbackLeg leg (legPings db routeId leg) (first :: rest), ?_, hline⟩
  exact bind_eq_ok.mpr ⟨none, hmatch, bind_eq_ok.mpr ⟨some (first :: rest), hfallback, rfl⟩⟩

/-- Without a matching, a leg with two pings or more is not drawn. -/
theorem computeLegOutcome_of_unmatched
    (hmatch : matchPings env (legPings db routeId leg) = .ok none)
    (hmany : minPingsForFallback ≤ (legPings db routeId leg).length) :
    computeLegOutcome env db routeId leg = .ok (emptyLeg leg (legPings db routeId leg)) := by
  have hfallback : routeFallback env leg (legPings db routeId leg) = .ok none := by
    unfold routeFallback
    split
    · exact if_neg (not_lt.mpr hmany)
    · rfl
  exact bind_eq_ok.mpr ⟨none, hmatch, bind_eq_ok.mpr ⟨none, hfallback, rfl⟩⟩

theorem not_drawn_of_unmatched (hmatch : matchPings env (legPings db routeId leg) = .ok none)
    (hmany : minPingsForFallback ≤ (legPings db routeId leg).length) :
    ¬ Drawn env db routeId leg := by
  rintro ⟨outcome, houtcome, hline⟩
  rw [computeLegOutcome_of_unmatched hmatch hmany] at houtcome
  obtain rfl := Except.ok.inj houtcome
  exact Bool.false_ne_true hline

/-- **Two or three pings** are neither matched nor routed. -/
theorem not_drawn_of_between (hmany : minPingsForFallback ≤ (legPings db routeId leg).length)
    (hfew : (legPings db routeId leg).length < minPingsForMatch) :
    ¬ Drawn env db routeId leg :=
  not_drawn_of_unmatched (if_neg (not_le.mpr hfew)) hmany

/-- A matched leg has the line of the matching. -/
theorem drawn_iff_of_matched {m0 : OsrmRoute}
    (hmatch : matchPings env (legPings db routeId leg) = .ok (some m0)) :
    Drawn env db routeId leg ↔ m0.geometry.isSome = true := by
  have hleg : computeLegOutcome env db routeId leg
      = .ok (matchedLeg leg (legPings db routeId leg) m0) :=
    bind_eq_ok.mpr ⟨some m0, hmatch, rfl⟩
  constructor
  · rintro ⟨outcome, houtcome, hline⟩
    rw [hleg] at houtcome
    obtain rfl := Except.ok.inj houtcome
    exact hline
  · exact fun hline => ⟨_, hleg, hline⟩

/-- What the engine's answer is to a leg with enough pings. -/
theorem matchPings_of_answer (henough : minPingsForMatch ≤ (legPings db routeId leg).length)
    {matchings : List (Option OsrmRoute)}
    (htrace : env.matchTrace ((legPings db routeId leg).map Ping.coordinate) = .ok matchings) :
    matchPings env (legPings db routeId leg) = .ok (matchings.head?.bind id) := by
  rw [matchPings, if_pos henough, htrace]
  rfl

/-- An engine that fails leaves the leg without a line. -/
theorem not_drawn_of_failed (henough : minPingsForMatch ≤ (legPings db routeId leg).length)
    {e : ServiceError}
    (htrace : env.matchTrace ((legPings db routeId leg).map Ping.coordinate) = .error e) :
    ¬ Drawn env db routeId leg := by
  have hmatch : matchPings env (legPings db routeId leg)
      = (orNone (.error e : Except ServiceError (List (Option OsrmRoute)))).map
          fun answer => answer.bind fun matchings => matchings.head?.bind id := by
    rw [matchPings, if_pos henough, htrace]
    rfl
  cases hcaught : orNone (.error e : Except ServiceError (List (Option OsrmRoute))) with
  | error e' =>
      rw [hcaught] at hmatch
      rintro ⟨outcome, houtcome, -⟩
      obtain ⟨m0, hm0, -⟩ := bind_eq_ok.mp houtcome
      rw [hmatch] at hm0
      cases hm0
  | ok answer =>
      have hnone : answer = none := by
        unfold orNone at hcaught
        split at hcaught
        · rename_i heq
          cases heq
        · exact (Except.ok.inj hcaught).symm
        · cases hcaught
      rw [hcaught, hnone] at hmatch
      exact not_drawn_of_unmatched hmatch (le_trans (by decide) henough)

/-- **From four pings on** a leg is drawn exactly if its pings are matched. -/
theorem drawn_iff_of_enough (henough : minPingsForMatch ≤ (legPings db routeId leg).length) :
    Drawn env db routeId leg ↔ env.Matches (legPings db routeId leg) := by
  cases htrace : env.matchTrace ((legPings db routeId leg).map Ping.coordinate) with
  | error e =>
      refine iff_of_false (not_drawn_of_failed henough htrace) ?_
      rintro ⟨m0, rest, hanswer, -⟩
      rw [htrace] at hanswer
      cases hanswer
  | ok matchings =>
      have hmatch := matchPings_of_answer henough htrace
      cases hfirst : matchings.head?.bind id with
      | none =>
          rw [hfirst] at hmatch
          refine iff_of_false (not_drawn_of_unmatched hmatch (le_trans (by decide) henough)) ?_
          rintro ⟨m0, rest, hanswer, -⟩
          obtain rfl := Except.ok.inj (htrace.symm.trans hanswer)
          cases hfirst
      | some m0 =>
          rw [hfirst] at hmatch
          rw [drawn_iff_of_matched hmatch]
          constructor
          · intro hline
            cases matchings with
            | nil => cases hfirst
            | cons first rest =>
                obtain rfl : first = some m0 := hfirst
                exact ⟨m0, rest, htrace, hline⟩
          · rintro ⟨m1, rest, hanswer, hline⟩
            obtain rfl := Except.ok.inj (htrace.symm.trans hanswer)
            obtain rfl := Option.some.inj hfirst
            exact hline

/-- **When a leg is drawn.** With an engine that always finds a route, a leg that has a point to
come from is drawn exactly if there are fewer than two pings in its window, or at least four that
the engine matches to a line. -/
theorem leg_drawn_iff (henv : env.FindsRoutes) {prevCoord : Coordinate}
    (hprev : leg.prevCoord = some prevCoord) :
    Drawn env db routeId leg ↔
      (windowPings db routeId leg).length < minPingsForFallback ∨
        (minPingsForMatch ≤ (windowPings db routeId leg).length ∧
          env.Matches (legPings db routeId leg)) := by
  have hfallback : minPingsForFallback ≤ (legPings db routeId leg).length ↔
      minPingsForFallback ≤ (windowPings db routeId leg).length :=
    le_length_legPings_iff (by decide)
  have hmatch : minPingsForMatch ≤ (legPings db routeId leg).length ↔
      minPingsForMatch ≤ (windowPings db routeId leg).length := le_length_legPings_iff (by decide)
  rw [← not_le, ← hfallback, ← hmatch]
  by_cases hmany : minPingsForFallback ≤ (legPings db routeId leg).length
  · by_cases henough : minPingsForMatch ≤ (legPings db routeId leg).length
    · rw [drawn_iff_of_enough henough]
      exact ⟨fun h => .inr ⟨henough, h⟩, fun h => (h.resolve_left (not_not.mpr hmany)).2⟩
    · refine iff_of_false (not_drawn_of_between hmany (not_le.mp henough)) ?_
      exact fun h => h.elim (fun hfew => hfew hmany) fun h => henough h.1
  · exact iff_of_true (drawn_of_few henv hprev (not_le.mp hmany)) (.inl hmany)

/-! ### Two pings on the way -/

/-- An engine that finds a route between any points and matches nothing. -/
def routingEngine : RouteEnv :=
  withEngine (fun _ => .ok [⟨some "_p~iF~ps|U", some 1200, some 90, []⟩]) fun _ => .ok []

theorem routingEngine_findsRoutes : routingEngine.FindsRoutes :=
  fun _ _ => ⟨_, [], rfl, rfl⟩

/-- The first stop is reached from the depot by time 10. -/
def firstLeg : Leg := ⟨demoStop 1 1 (some 10), some ⟨0, 50⟩, ⟨0, 51⟩, some 0, some 10⟩

/-- With one ping before that the leg is drawn. -/
theorem one_ping_drawn : Drawn routingEngine (demoTables 5 15) 1 firstLeg :=
  (leg_drawn_iff routingEngine_findsRoutes rfl).mpr (.inl (by decide +kernel))

/-- **With two it is not**, although the engine finds a route for it. -/
theorem two_pings_not_drawn :
    ¬ ∀ (env : RouteEnv) (db : Tables) (routeId : Id) (leg : Leg), env.FindsRoutes →
      leg.prevCoord.isSome = true → Drawn env db routeId leg := by
  intro hall
  have hmany : minPingsForFallback ≤ (legPings (demoTables 5 8) 1 firstLeg).length := by
    decide +kernel
  have hfew : (legPings (demoTables 5 8) 1 firstLeg).length < minPingsForMatch := by
    decide +kernel
  exact not_drawn_of_between hmany hfew
    (hall routingEngine (demoTables 5 8) 1 firstLeg routingEngine_findsRoutes rfl)

end SwCouriers.RouteGeometry
