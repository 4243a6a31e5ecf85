import SwCouriers.Crews
import SwCouriers.Lib.Lifetimes

/-!
# Crews are Exclusive

Whatever transactions of the crew service run at the same time, and however their statements
interleave, every committed state has at most one open crew for each driver and each vehicle,
at most one open assignment for each route and each crew, and no open assignment of a crew
that has ended. A crew or an assignment that has ended is never written again.

The unique indexes give the first two. The last one is no constraint of the database: whoever
adds an assignment to a crew holds the row of the crew, and whoever ends a crew has, holding
its row, looked for its open assignment. Both are part of how the tables evolve
(`CrewEvolves`): an assignment is added, and a crew is ended, by a transaction that holds the
crew.

## Main results

* `wp_lockOpenForCrew`: a search that finds no open assignment of a crew that is held has seen
  that there is none.
* `CrewOp.keeps`: each operation keeps the discipline on its own.
* `crews_exclusive`: so do all of them together, along every schedule.
-/

namespace SwCouriers

open Checked ReadCommitted Discipline

/-! ### The discipline -/

/-- What every committed state satisfies. -/
structure CrewInv (db : CrewDb) : Prop where
  /-- At most one open crew for each driver. -/
  driver : ∀ a ∈ db.crews.rows, ∀ b ∈ db.crews.rows, a.isOpen = true → b.isOpen = true →
    ∀ d, a.driverId = some d → b.driverId = some d → a = b
  /-- At most one open crew for each vehicle. -/
  vehicle : ∀ a ∈ db.crews.rows, ∀ b ∈ db.crews.rows, a.isOpen = true → b.isOpen = true →
    ∀ v, a.vehicleId = some v → b.vehicleId = some v → a = b
  /-- At most one open assignment for each route. -/
  route : ∀ a ∈ db.assignments.rows, ∀ b ∈ db.assignments.rows, a.isOpen = true →
    b.isOpen = true → a.routeId = b.routeId → a = b
  /-- At most one open assignment for each crew. -/
  crew : ∀ a ∈ db.assignments.rows, ∀ b ∈ db.assignments.rows, a.isOpen = true →
    b.isOpen = true → a.crewId = b.crewId → a = b
  /-- An open assignment belongs to an open crew. -/
  openCrew : ∀ a ∈ db.assignments.rows, a.isOpen = true →
    ∃ c ∈ db.crews.rows, c.id = a.crewId ∧ c.isOpen = true

/-- What a crew pairs. -/
def Crew.pair (crew : Crew) : Option Id × Option Id := (crew.driverId, crew.vehicleId)

/-- What an assignment brings together. -/
def RouteCrewAssignment.link (assn : RouteCrewAssignment) : Id × Id := (assn.routeId, assn.crewId)

/-- How the tables evolve when the given rows and index entries may be touched: only a crew
that is held ends, a new crew has its index entries claimed, and a new assignment has besides
its crew held. -/
structure CrewEvolves (touched : CrewLock → Prop) (db db' : CrewDb) : Prop where
  crews : db.crews.Ages Crew.isOpen Crew.pair (fun id => touched (.crew id))
    (fun pair => (∀ d, pair.1 = some d → touched (.openDriver d)) ∧
      ∀ v, pair.2 = some v → touched (.openVehicle v)) db'.crews
  assignments : db.assignments.Ages RouteCrewAssignment.isOpen RouteCrewAssignment.link
    (fun id => touched (.assignment id))
    (fun link => touched (.openRoute link.1) ∧ touched (.openCrew link.2) ∧
      touched (.crew link.2)) db'.assignments

/-- The discipline of the crew tables. -/
def crewDiscipline : Discipline CrewDb CrewLock where
  inv := CrewInv
  evolves := CrewEvolves
  refl := fun _ db => ⟨.refl db.crews, .refl db.assignments⟩
  trans := fun h h' => ⟨h.crews.trans h'.crews, h.assignments.trans h'.assignments⟩
  mono := fun hsub h =>
    ⟨h.crews.mono (fun _ => hsub _) fun _ hadds =>
        ⟨fun d hd => hsub _ (hadds.1 d hd), fun v hv => hsub _ (hadds.2 v hv)⟩,
      h.assignments.mono (fun _ => hsub _) fun _ hadds =>
        ⟨hsub _ hadds.1, hsub _ hadds.2.1, hsub _ hadds.2.2⟩⟩

section

variable {db db' : CrewDb} {held : CrewLock → Prop} {ctx : CrewContext}

/-! ### What stays as it is -/

variable {crew : Crew} {assn : RouteCrewAssignment} {crewId driverId vehicleId routeId : Id}
  {reason : CrewEndReason} {notes : Option String}

/-- A crew that is held stays as it is. -/
theorem crew_kept (hmem : crew ∈ db.crews.rows) (hheld : held (.crew crew.id))
    (h : crewDiscipline.Rely held db db') : crew ∈ db'.crews.rows :=
  h.1.crews.mem_of_not_ends hmem fun hnot => hnot hheld

/-- An assignment that is held stays as it is. -/
theorem assignment_kept (hmem : assn ∈ db.assignments.rows) (hheld : held (.assignment assn.id))
    (h : crewDiscipline.Rely held db db') : assn ∈ db'.assignments.rows :=
  h.1.assignments.mem_of_not_ends hmem fun hnot => hnot hheld

/-- No assignment of a crew is open. -/
def CrewIdle (db : CrewDb) (crewId : Id) : Prop :=
  ∀ a ∈ db.assignments.rows, a.isOpen = true → a.crewId ≠ crewId

/-- Nobody gives a route to a crew that is held. -/
theorem CrewIdle.later (h : CrewIdle db crewId) (hheld : held (.crew crewId))
    (hrely : crewDiscipline.Rely held db db') : CrewIdle db' crewId := by
  intro a ha hopen hcrew
  rcases hrely.1.assignments.mem_of_isOpen ha hopen with ha | hadds
  · exact h a ha hopen hcrew
  · exact hadds.2.2 (show held (.crew a.crewId) from hcrew ▸ hheld)

/-- No crew of a driver is open. -/
def DriverFree (db : CrewDb) (driverId : Id) : Prop :=
  ∀ c ∈ db.crews.rows, c.isOpen = true → c.driverId ≠ some driverId

theorem DriverFree.later (h : DriverFree db driverId) (hheld : held (.openDriver driverId))
    (hrely : crewDiscipline.Rely held db db') : DriverFree db' driverId := by
  intro c hc hopen hdriver
  rcases hrely.1.crews.mem_of_isOpen hc hopen with hc | hadds
  · exact h c hc hopen hdriver
  · exact hadds.1 driverId hdriver hheld

/-- No crew of a vehicle is open. -/
def VehicleFree (db : CrewDb) (vehicleId : Id) : Prop :=
  ∀ c ∈ db.crews.rows, c.isOpen = true → c.vehicleId ≠ some vehicleId

theorem VehicleFree.later (h : VehicleFree db vehicleId) (hheld : held (.openVehicle vehicleId))
    (hrely : crewDiscipline.Rely held db db') : VehicleFree db' vehicleId := by
  intro c hc hopen hvehicle
  rcases hrely.1.crews.mem_of_isOpen hc hopen with hc | hadds
  · exact h c hc hopen hvehicle
  · exact hadds.2 vehicleId hvehicle hheld

/-- No assignment of a route is open. -/
def RouteFree (db : CrewDb) (routeId : Id) : Prop :=
  ∀ a ∈ db.assignments.rows, a.isOpen = true → a.routeId ≠ routeId

theorem RouteFree.later (h : RouteFree db routeId) (hheld : held (.openRoute routeId))
    (hrely : crewDiscipline.Rely held db db') : RouteFree db' routeId := by
  intro a ha hopen hroute
  rcases hrely.1.assignments.mem_of_isOpen ha hopen with ha | hadds
  · exact h a ha hopen hroute
  · exact hadds.1 (show held (.openRoute a.routeId) from hroute ▸ hheld)

/-! ### What may be committed -/

/-- A crew that is rewritten to have ended is no open crew any more. -/
theorem mem_endCrew {c : Crew} (hc : c ∈ (db.endCrew ctx crewId reason).crews.rows)
    (hopen : c.isOpen = true) : c ∈ db.crews.rows ∧ c.id ≠ crewId := by
  obtain ⟨c₀, hc₀, rfl⟩ := (Table.mem_modify_iff (Crew.id_ended ctx reason)).mp hc
  by_cases hid : c₀.id = crewId
  · rw [if_pos hid] at hopen
    exact absurd hopen Bool.false_ne_true
  · rw [if_neg hid]
    exact ⟨hc₀, hid⟩

theorem mem_endAssignment {assnId : Id} {reason : RouteCrewUnassignReason}
    {a : RouteCrewAssignment} (ha : a ∈ (db.endAssignment ctx assnId reason).assignments.rows)
    (hopen : a.isOpen = true) : a ∈ db.assignments.rows ∧ a.id ≠ assnId := by
  obtain ⟨a₀, ha₀, rfl⟩ :=
    (Table.mem_modify_iff (RouteCrewAssignment.id_ended ctx reason)).mp ha
  by_cases hid : a₀.id = assnId
  · rw [if_pos hid] at hopen
    exact absurd hopen Bool.false_ne_true
  · rw [if_neg hid]
    exact ⟨ha₀, hid⟩

/-- The end of a crew without an open assignment. -/
theorem commits_endCrew (hinv : CrewInv db) (hmem : crew ∈ db.crews.rows)
    (hopen : crew.isOpen = true) (hheld : held (.crew crew.id)) (hidle : CrewIdle db crew.id) :
    crewDiscipline.Commits (CrewDb.endCrew ctx crew.id reason) db held := by
  refine ⟨⟨?_, ?_, hinv.route, hinv.crew, ?_⟩, ?_, .refl _⟩
  · intro a ha b hb hopena hopenb
    exact hinv.driver a (mem_endCrew ha hopena).1 b (mem_endCrew hb hopenb).1 hopena hopenb
  · intro a ha b hb hopena hopenb
    exact hinv.vehicle a (mem_endCrew ha hopena).1 b (mem_endCrew hb hopenb).1 hopena hopenb
  · intro a ha hopena
    obtain ⟨c, hc, hid, hopenc⟩ := hinv.openCrew a ha hopena
    have hother : c.id ≠ crew.id := fun heq => hidle a ha hopena (hid.symm.trans heq)
    refine ⟨c, (Table.mem_modify_iff (Crew.id_ended ctx reason)).mpr ⟨c, hc, ?_⟩, hid, hopenc⟩
    exact if_neg hother
  · exact .modify (Crew.id_ended ctx reason) hmem hopen hheld rfl rfl

/-- The end of an assignment. -/
theorem commits_endAssignment {reason : RouteCrewUnassignReason} (hinv : CrewInv db)
    (hmem : assn ∈ db.assignments.rows) (hopen : assn.isOpen = true)
    (hheld : held (.assignment assn.id)) :
    crewDiscipline.Commits (CrewDb.endAssignment ctx assn.id reason) db held := by
  refine ⟨⟨hinv.driver, hinv.vehicle, ?_, ?_, ?_⟩, .refl _,
    .modify (RouteCrewAssignment.id_ended ctx reason) hmem hopen hheld rfl rfl⟩
  · intro a ha b hb hopena hopenb
    exact hinv.route a (mem_endAssignment ha hopena).1 b (mem_endAssignment hb hopenb).1 hopena
      hopenb
  · intro a ha b hb hopena hopenb
    exact hinv.crew a (mem_endAssignment ha hopena).1 b (mem_endAssignment hb hopenb).1 hopena
      hopenb
  · intro a ha hopena
    exact hinv.openCrew a (mem_endAssignment ha hopena).1 hopena

/-- Two rows of which at most one is new are not in each other's way when the new one is not
in the way of the others. -/
theorem forall_append_pair {ρ : Type} {rows : List ρ} {new : ρ} {R : ρ → ρ → Prop}
    (hrows : ∀ a ∈ rows, ∀ b ∈ rows, R a b) (hnew : R new new)
    (hleft : ∀ a ∈ rows, R a new) (hright : ∀ a ∈ rows, R new a) :
    ∀ a ∈ rows ++ [new], ∀ b ∈ rows ++ [new], R a b := by
  intro a ha b hb
  rcases List.mem_append.mp ha with ha | ha <;> rcases List.mem_append.mp hb with hb | hb
  · exact hrows a ha b hb
  · exact List.mem_singleton.mp hb ▸ hleft a ha
  · exact List.mem_singleton.mp ha ▸ hright b hb
  · rw [List.mem_singleton.mp ha, List.mem_singleton.mp hb]
    exact hnew

/-- A new crew of a driver and a vehicle without one. -/
theorem commits_addCrew (hinv : CrewInv db) (hdriver : DriverFree db driverId)
    (hvehicle : VehicleFree db vehicleId) (hheldd : held (.openDriver driverId))
    (hheldv : held (.openVehicle vehicleId)) :
    crewDiscipline.Commits (CrewDb.addCrew ctx driverId vehicleId notes) db held := by
  have hrows : (db.addCrew ctx driverId vehicleId notes).crews.rows
      = db.crews.rows ++ [db.newCrew ctx driverId vehicleId notes] :=
    Table.rows_insert_of_notMem (Table.fresh_notMem _)
  refine ⟨⟨?_, ?_, hinv.route, hinv.crew, ?_⟩, ?_, .refl _⟩
  · rw [hrows]
    refine forall_append_pair hinv.driver (fun _ _ _ _ _ => rfl) ?_ ?_
    · intro a ha hopen _ d had hd
      exact absurd (had.trans hd.symm) (hdriver a ha hopen)
    · intro a ha _ hopen d hd had
      exact absurd (had.trans hd.symm) (hdriver a ha hopen)
  · rw [hrows]
    refine forall_append_pair hinv.vehicle (fun _ _ _ _ _ => rfl) ?_ ?_
    · intro a ha hopen _ v hav hv
      exact absurd (hav.trans hv.symm) (hvehicle a ha hopen)
    · intro a ha _ hopen v hv hav
      exact absurd (hav.trans hv.symm) (hvehicle a ha hopen)
  · intro a ha hopen
    obtain ⟨c, hc, hid⟩ := hinv.openCrew a ha hopen
    exact ⟨c, hrows ▸ List.mem_append_left _ hc, hid⟩
  · refine .insert (Table.fresh_notMem _) ⟨fun d hd => ?_, fun v hv => ?_⟩
    · exact Option.some.inj hd ▸ hheldd
    · exact Option.some.inj hv ▸ hheldv

/-- A new assignment of an open crew, where neither the route nor the crew has one. -/
theorem commits_addAssignment (hinv : CrewInv db) (hmem : crew ∈ db.crews.rows)
    (hopen : crew.isOpen = true) (hroute : RouteFree db routeId) (hidle : CrewIdle db crew.id)
    (hheldr : held (.openRoute routeId)) (hheldi : held (.openCrew crew.id))
    (hheldc : held (.crew crew.id)) :
    crewDiscipline.Commits (CrewDb.addAssignment ctx routeId crew.id) db held := by
  have hrows : (db.addAssignment ctx routeId crew.id).assignments.rows
      = db.assignments.rows ++ [db.newAssignment ctx routeId crew.id] :=
    Table.rows_insert_of_notMem (Table.fresh_notMem _)
  refine ⟨⟨hinv.driver, hinv.vehicle, ?_, ?_, ?_⟩, .refl _, ?_⟩
  · rw [hrows]
    refine forall_append_pair hinv.route (fun _ _ _ => rfl) ?_ ?_
    · exact fun a ha hopen _ heq => absurd heq (hroute a ha hopen)
    · exact fun a ha _ hopen heq => absurd heq.symm (hroute a ha hopen)
  · rw [hrows]
    refine forall_append_pair hinv.crew (fun _ _ _ => rfl) ?_ ?_
    · exact fun a ha hopen _ heq => absurd heq (hidle a ha hopen)
    · exact fun a ha _ hopen heq => absurd heq.symm (hidle a ha hopen)
  · intro a ha hopena
    rw [hrows] at ha
    rcases List.mem_append.mp ha with ha | ha
    · exact hinv.openCrew a ha hopena
    · rw [List.mem_singleton.mp ha]
      exact ⟨crew, hmem, rfl, hopen⟩
  · exact .insert (Table.fresh_notMem _) ⟨hheldr, hheldi, hheldc⟩

/-! ### Writes that are still to be committed -/

/-- The end of a crew that is held and idle. -/
theorem pending_endCrew (hmem : crew ∈ db.crews.rows) (hopen : crew.isOpen = true)
    (hheld : held (.crew crew.id)) (hidle : CrewIdle db crew.id) :
    crewDiscipline.Pending (CrewDb.endCrew ctx crew.id reason) db held := by
  have hcommits : ∀ {db' held'}, crewDiscipline.Rely held db db' →
      (∀ k, held k → held' k) →
      crewDiscipline.Commits (CrewDb.endCrew ctx crew.id reason) db' held' := by
    intro db' held' hrely hsub
    exact commits_endCrew hrely.2 (crew_kept hmem hheld hrely) hopen (hsub _ hheld)
      (hidle.later hheld hrely)
  intro db' hrely held' hsub
  refine ⟨hcommits hrely hsub, fun db'' hrely' => ⟨⟨?_, hrely'.1.assignments⟩, ?_⟩⟩
  · exact hrely'.1.crews.modify_both (Crew.id_ended ctx reason)
      (fun hnot => hnot (hsub _ hheld)) fun _ => rfl
  · exact (hcommits (hrely.trans (hrely'.weaken hsub)) hsub).1

/-- The end of an assignment that is held. -/
theorem pending_endAssignment {reason : RouteCrewUnassignReason} (hmem : assn ∈ db.assignments.rows)
    (hopen : assn.isOpen = true) (hheld : held (.assignment assn.id)) :
    crewDiscipline.Pending (CrewDb.endAssignment ctx assn.id reason) db held := by
  have hcommits : ∀ {db' held'}, crewDiscipline.Rely held db db' →
      (∀ k, held k → held' k) →
      crewDiscipline.Commits (CrewDb.endAssignment ctx assn.id reason) db' held' := by
    intro db' held' hrely hsub
    exact commits_endAssignment hrely.2 (assignment_kept hmem hheld hrely) hopen
      (hsub _ hheld)
  intro db' hrely held' hsub
  refine ⟨hcommits hrely hsub, fun db'' hrely' => ⟨⟨hrely'.1.crews, ?_⟩, ?_⟩⟩
  · exact hrely'.1.assignments.modify_both (RouteCrewAssignment.id_ended ctx reason)
      (fun hnot => hnot (hsub _ hheld)) fun _ => rfl
  · exact (hcommits (hrely.trans (hrely'.weaken hsub)) hsub).1

/-! ### The operations -/

/-- What a search for the open assignment of a crew has found: an open assignment, which is
held now, or that there is none. -/
def SearchedFor (crewId : Id) (db : CrewDb) (held : CrewLock → Prop) :
    Option RouteCrewAssignment → Prop
  | none => CrewIdle db crewId
  | some assn => assn ∈ db.assignments.rows ∧ assn.isOpen = true ∧ assn.crewId = crewId ∧
      held (.assignment assn.id)

/-- **The search for the open assignment of a crew that is held.** If it finds none there is
none: what was open when the search began is passed over only once it has ended, and nothing
is added meanwhile. -/
theorem wp_lockOpenForCrew {Q : Option RouteCrewAssignment → CrewDb → (CrewLock → Prop) → Prop}
    (hheld : held (.crew crewId)) (hQ : ∀ found db' held', crewDiscipline.Later db held db' held' →
      SearchedFor crewId db' held' found → Q found db' held') :
    crewDiscipline.wp Q (lockOpenForCrew crewId) db held := by
  refine wp_selectForUpdate (I := fun ids db' held' => crewDiscipline.Later db held db' held' ∧
    ∀ a ∈ db'.assignments.rows, a.isOpen = true → a.crewId = crewId → a.id ∈ ids) ?_ ?_ ?_ ?_
  · intro db' hrely
    refine ⟨⟨fun _ hk => hk, hrely⟩, fun a ha hopen hcrew => ?_⟩
    rcases hrely.1.assignments.mem_of_isOpen ha hopen with ha | hadds
    · exact List.mem_map_of_mem (List.mem_filter.mpr ⟨ha, by simp [hcrew, hopen]⟩)
    · exact absurd (show held (.crew a.crewId) from hcrew ▸ hheld) hadds.2.2
  · rintro id ids db₁ held₁ ⟨hlater, -⟩ db' hrely assn hassn hmatch
    obtain ⟨hmem, rfl⟩ := Table.find?_eq_some_iff.mp hassn
    obtain ⟨hcrew, hopen⟩ := Bool.and_eq_true_iff.mp hmatch
    exact hQ (some assn) db' _ (hlater.step (fun _ hk => .inr hk) hrely)
      ⟨assignment_kept hmem (.inl rfl) hrely, hopen, of_decide_eq_true hcrew, .inl rfl⟩
  · rintro id ids db₁ held₁ ⟨hlater, hleft⟩ db' hrely hpassed
    refine ⟨hlater.step (fun _ hk => .inr hk) hrely, fun a ha hopen hcrew => ?_⟩
    rcases hrely.1.assignments.mem_of_isOpen ha hopen with ha₁ | hadds
    · rcases List.mem_cons.mp (hleft a ha₁ hopen hcrew) with hid | hid
      · have hmatch := hpassed a (Table.find?_eq_some_iff.mpr ⟨ha₁, hid⟩)
        rw [decide_eq_true hcrew, hopen] at hmatch
        exact absurd hmatch.symm Bool.false_ne_true
      · exact hid
    · exact absurd (.inr (show held₁ (.crew a.crewId) from hcrew ▸ hlater.1 _ hheld)) hadds.2.2
  · rintro db' held' ⟨hlater, hleft⟩
    exact hQ none db' held' hlater fun a ha hopen hcrew =>
      absurd (hleft a ha hopen hcrew) List.not_mem_nil

/-- A locking read of crews. -/
theorem wp_lockCrew {p : Crew → Bool} {Q : Option Crew → CrewDb → (CrewLock → Prop) → Prop}
    (hfound : ∀ db' held' crew, crewDiscipline.Later db held db' held' →
      crew ∈ db'.crews.rows → p crew = true → held' (.crew crew.id) → Q (some crew) db' held')
    (hnone : ∀ db' held', crewDiscipline.Later db held db' held' → Q none db' held') :
    crewDiscipline.wp Q
      (.selectForUpdate .crew CrewDb.crews p : CrewTxn (Option Crew)) db held :=
  wp_selectForUpdate_held (fun hmem hheld hrely => crew_kept hmem hheld hrely) hfound hnone

/-- A locking read of the open assignment of a route. -/
theorem wp_lockOpenForRoute {Q : Option RouteCrewAssignment → CrewDb → (CrewLock → Prop) → Prop}
    (hfound : ∀ db' held' assn, crewDiscipline.Later db held db' held' →
      assn ∈ db'.assignments.rows → assn.isOpen = true → held' (.assignment assn.id) →
      Q (some assn) db' held')
    (hnone : ∀ db' held', crewDiscipline.Later db held db' held' → Q none db' held') :
    crewDiscipline.wp Q (lockOpenForRoute routeId) db held := by
  refine wp_selectForUpdate_held
    (fun hmem hheld hrely => assignment_kept hmem hheld hrely) ?_ hnone
  intro db' held' assn hlater hmem hmatch hheld
  exact hfound db' held' assn hlater hmem (Bool.and_eq_true_iff.mp hmatch).2 hheld

/-- The update of a crew row. -/
theorem wp_closeCrewRow {Q : (CrewDb → CrewDb) → CrewDb → (CrewLock → Prop) → Prop}
    (hQ : ∀ db' held', crewDiscipline.Later db held db' held' →
      Q (CrewDb.endCrew ctx crew.id reason) db' held') :
    crewDiscipline.wp Q (closeCrewRow ctx crew reason) db held := by
  refine wp_bind.mpr (wp_lockRow.mpr fun db' hrely _ _ => hQ db' _ ⟨fun _ hk => .inr hk, ?_⟩)
  exact hrely.weaken fun _ hk => .inr hk

/-- The update of an assignment row. -/
theorem wp_closeAssignment {reason : RouteCrewUnassignReason}
    {Q : (CrewDb → CrewDb) → CrewDb → (CrewLock → Prop) → Prop}
    (hQ : ∀ db' held', crewDiscipline.Later db held db' held' →
      Q (CrewDb.endAssignment ctx assn.id reason) db' held') :
    crewDiscipline.wp Q (closeAssignment ctx assn reason) db held := by
  refine wp_bind.mpr (wp_lockRow.mpr fun db' hrely _ _ => hQ db' _ ⟨fun _ hk => .inr hk, ?_⟩)
  exact hrely.weaken fun _ hk => .inr hk

/-- `open_crew`. -/
theorem wp_openCrew :
    crewDiscipline.wp crewDiscipline.Commits (openCrew ctx driverId vehicleId notes) db
      held := by
  refine wp_bind.mpr (wp_claim.mpr fun db₁ hrely₁ hdriver => ?_)
  refine wp_bind.mpr (wp_claim.mpr fun db₂ hrely₂ hvehicle => ?_)
  have hfreed : DriverFree db driverId := by
    intro c hc hopen hd
    refine absurd (List.any_eq_true.mpr ⟨c, hc, ?_⟩) (Bool.not_eq_true _ ▸ hdriver)
    simp [hopen, hd]
  have hfreev : VehicleFree db₁ vehicleId := by
    intro c hc hopen hv
    refine absurd (List.any_eq_true.mpr ⟨c, hc, ?_⟩) (Bool.not_eq_true _ ▸ hvehicle)
    simp [hopen, hv]
  refine commits_addCrew hrely₂.2 ?_ (hfreev.later (.inl rfl) hrely₂) (.inr (.inl rfl)) (.inl rfl)
  exact (hfreed.later (.inl rfl) hrely₁).later (.inr (.inl rfl)) hrely₂

/-- `assign_route`. -/
theorem wp_assignRoute :
    crewDiscipline.wp crewDiscipline.Commits (assignRoute ctx routeId crewId) db held := by
  refine wp_bind.mpr (wp_lockCrew ?_ ?_)
  · intro db₁ held₁ crew hlater₁ hmem hmatch hheld
    obtain rfl : crew.id = crewId := of_decide_eq_true hmatch
    refine wp_bind.mpr (wp_check.mpr fun crew' hcrew => ?_)
    obtain rfl := Option.some.inj (orRaise_eq_ok.mp hcrew)
    refine wp_bind.mpr (wp_check.mpr fun _ hopen => ?_)
    have hopen : crew.isOpen = true := not_not.mp (raiseIf_eq_ok.mp hopen)
    -- What the search for the route finds does not matter: the index entries decide.
    have hrest : ∀ existing db₂ held₂, crewDiscipline.Later db₁ held₁ db₂ held₂ →
        crewDiscipline.wp crewDiscipline.Commits (do
          let _ ← Txn.check (raiseIf (existing = true)
            (.conflict "Route already has an open crew assignment."))
          Txn.claim (.openRoute routeId)
            (fun db => db.assignments.rows.any fun a => a.isOpen && a.routeId = routeId)
            (.conflict "Route or crew already has an open assignment.")
          Txn.claim (.openCrew crew.id)
            (fun db => db.assignments.rows.any fun a => a.isOpen && a.crewId = crew.id)
            (.conflict "Route or crew already has an open assignment.")
          return CrewDb.addAssignment ctx routeId crew.id : CrewTxn (CrewDb → CrewDb))
          db₂ held₂ := by
      intro existing db₂ held₂ hlater₂
      have hmem₂ := crew_kept hmem hheld hlater₂.2
      have hheld₂ := hlater₂.1 _ hheld
      refine wp_bind.mpr (wp_check.mpr fun _ _ => ?_)
      refine wp_bind.mpr (wp_claim.mpr fun db₃ hrely₃ hroute => ?_)
      refine wp_bind.mpr (wp_claim.mpr fun db₄ hrely₄ hcrew => ?_)
      have hfree : RouteFree db₂ routeId := by
        intro a ha hopena hr
        refine absurd (List.any_eq_true.mpr ⟨a, ha, ?_⟩) (Bool.not_eq_true _ ▸ hroute)
        simp [hopena, hr]
      have hidle : CrewIdle db₃ crew.id := by
        intro a ha hopena hc
        refine absurd (List.any_eq_true.mpr ⟨a, ha, ?_⟩) (Bool.not_eq_true _ ▸ hcrew)
        simp [hopena, hc]
      have hmem₄ := crew_kept (crew_kept hmem₂ (.inr hheld₂) hrely₃) (.inr (.inr hheld₂)) hrely₄
      refine commits_addAssignment hrely₄.2 hmem₄ hopen ?_
        (hidle.later (.inr (.inr hheld₂)) hrely₄) (.inr (.inl rfl)) (.inl rfl)
        (.inr (.inr hheld₂))
      exact (hfree.later (.inl rfl) hrely₃).later (.inr (.inl rfl)) hrely₄
    refine wp_bind.mpr (wp_lockOpenForRoute ?_ ?_)
    · exact fun db₂ held₂ assn hlater₂ _ _ _ => hrest _ db₂ held₂ hlater₂
    · exact fun db₂ held₂ hlater₂ => hrest _ db₂ held₂ hlater₂
  · exact fun _ _ _ => wp_bind.mpr (wp_check.mpr fun _ hnone =>
      absurd (orRaise_eq_ok.mp hnone).symm (Option.some_ne_none _))

/-- A crew is closed together with the assignment that was found for it. -/
theorem wp_closeCrewAndAssignment {assignmentReason : RouteCrewUnassignReason}
    {found : Option RouteCrewAssignment} (hmem : crew ∈ db.crews.rows) (hopen : crew.isOpen = true)
    (hheld : held (.crew crew.id)) (hfound : SearchedFor crew.id db held found) :
    crewDiscipline.wp crewDiscipline.Commits
      (closeCrewAndAssignment ctx crew reason assignmentReason found) db held := by
  cases found with
  | none =>
      refine wp_closeCrewRow fun db' held' hlater => ?_
      exact commits_endCrew hlater.2.2 (crew_kept hmem hheld hlater.2) hopen
        (hlater.1 _ hheld) (CrewIdle.later hfound hheld hlater.2)
  | some assn =>
      obtain ⟨hassn, hopena, hcrew, hhelda⟩ := hfound
      refine wp_bind.mpr (wp_closeAssignment fun db₁ held₁ hlater₁ => ?_)
      have hassn₁ := assignment_kept hassn hhelda hlater₁.2
      have hheld₁ := hlater₁.1 _ hheld
      refine wp_seeing_commits hlater₁.2.2
        (pending_endAssignment hassn₁ hopena (hlater₁.1 _ hhelda)) ?_
      -- With the assignment ended the crew has none: it had at most this one.
      have hidle : CrewIdle (db₁.endAssignment ctx assn.id assignmentReason) crew.id := by
        intro a ha hopen' hcrew'
        obtain ⟨ha₁, hother⟩ := mem_endAssignment ha hopen'
        have hsame :=
          hlater₁.2.2.crew a ha₁ assn hassn₁ hopen' hopena (hcrew'.trans hcrew.symm)
        exact hother (congrArg RouteCrewAssignment.id hsame)
      have hmem₁ : crew ∈ (db₁.endAssignment ctx assn.id assignmentReason).crews.rows :=
        show crew ∈ db₁.crews.rows from crew_kept hmem hheld hlater₁.2
      refine wp_closeCrewRow fun db₂ held₂ hlater₂ => ?_
      exact commits_endCrew hlater₂.2.2 (crew_kept hmem₁ hheld₁ hlater₂.2) hopen
        (hlater₂.1 _ hheld₁) (hidle.later hheld₁ hlater₂.2)

/-- A lookup that finds nothing raises. -/
theorem wp_orRaise_none {α : Type} {e : ServiceError} {f : α → CrewTxn (CrewDb → CrewDb)} :
    crewDiscipline.wp crewDiscipline.Commits (Txn.check (orRaise none e) >>= f) db held :=
  wp_bind.mpr (wp_check.mpr fun _ hnone =>
    absurd (orRaise_eq_ok.mp hnone).symm (Option.some_ne_none _))

/-- `close_crew`. -/
theorem wp_closeCrew {force : Bool} :
    crewDiscipline.wp crewDiscipline.Commits (closeCrew ctx crewId reason force) db held := by
  refine wp_bind.mpr (wp_lockCrew ?_ fun _ _ _ => wp_orRaise_none)
  intro db₁ held₁ crew _ hmem hmatch hheld
  obtain rfl : crew.id = crewId := of_decide_eq_true hmatch
  refine wp_bind.mpr (wp_check.mpr fun crew' hcrew => ?_)
  obtain rfl := Option.some.inj (orRaise_eq_ok.mp hcrew)
  refine wp_bind.mpr (wp_check.mpr fun _ hopen => ?_)
  have hopen : crew.isOpen = true := not_not.mp (raiseIf_eq_ok.mp hopen)
  refine wp_bind.mpr (wp_lockOpenForCrew hheld fun found db₂ held₂ hlater₂ hfound => ?_)
  refine wp_bind.mpr (wp_check.mpr fun _ _ => ?_)
  exact wp_closeCrewAndAssignment (crew_kept hmem hheld hlater₂.2) hopen (hlater₂.1 _ hheld)
    hfound

/-- What the reassignments share. -/
theorem wp_reassignCrew {onRoute : String} (hmem : crew ∈ db.crews.rows)
    (hopen : crew.isOpen = true) (hheld : held (.crew crew.id)) :
    crewDiscipline.wp crewDiscipline.Commits
      (reassignCrew ctx crew reason onRoute driverId vehicleId notes) db held := by
  refine wp_bind.mpr (wp_lockOpenForCrew hheld fun found db₁ held₁ hlater₁ hfound => ?_)
  refine wp_bind.mpr (wp_check.mpr fun _ hnone => ?_)
  obtain rfl : found = none := Option.not_isSome_iff_eq_none.mp (raiseIf_eq_ok.mp hnone)
  have hmem₁ := crew_kept hmem hheld hlater₁.2
  have hheld₁ := hlater₁.1 _ hheld
  refine wp_bind.mpr (wp_closeCrewRow fun db₂ held₂ hlater₂ => ?_)
  refine wp_seeing_commits hlater₂.2.2 ?_ wp_openCrew
  exact pending_endCrew (crew_kept hmem₁ hheld₁ hlater₂.2) hopen (hlater₂.1 _ hheld₁)
    (CrewIdle.later hfound hheld₁ hlater₂.2)

/-- A crew that is found by its driver or its vehicle is reassigned. -/
theorem wp_reassign {p : Crew → Bool} {e : ServiceError} {onRoute : String} :
    crewDiscipline.wp crewDiscipline.Commits (do
      let previous ← Txn.check (orRaise
        (← (.selectForUpdate .crew CrewDb.crews fun c => p c && c.isOpen : CrewTxn _)) e)
      reassignCrew ctx previous reason onRoute driverId vehicleId notes) db held := by
  refine wp_bind.mpr (wp_lockCrew ?_ fun _ _ _ => wp_orRaise_none)
  intro db₁ held₁ crew _ hmem hmatch hheld
  refine wp_bind.mpr (wp_check.mpr fun crew' hcrew => ?_)
  obtain rfl := Option.some.inj (orRaise_eq_ok.mp hcrew)
  exact wp_reassignCrew hmem (Bool.and_eq_true_iff.mp hmatch).2 hheld

/-- `unassign_route`. -/
theorem wp_unassignRoute {reason : RouteCrewUnassignReason} :
    crewDiscipline.wp crewDiscipline.Commits (unassignRoute ctx routeId reason) db held := by
  refine wp_bind.mpr (wp_lockOpenForRoute ?_ fun _ _ _ => wp_orRaise_none)
  intro db₁ held₁ assn _ hmem hopen hheld
  refine wp_bind.mpr (wp_check.mpr fun assn' hassn => ?_)
  obtain rfl := Option.some.inj (orRaise_eq_ok.mp hassn)
  refine wp_closeAssignment fun db₂ held₂ hlater₂ => ?_
  exact commits_endAssignment hlater₂.2.2 (assignment_kept hmem hheld hlater₂.2) hopen
    (hlater₂.1 _ hheld)

/-- `swap_route_crew`. -/
theorem wp_swapRouteCrew {newCrewId : Id} {reason : RouteCrewUnassignReason} :
    crewDiscipline.wp crewDiscipline.Commits (swapRouteCrew ctx routeId newCrewId reason) db
      held := by
  refine wp_bind.mpr (wp_lockOpenForRoute ?_ fun _ _ _ => wp_orRaise_none)
  intro db₁ held₁ assn _ hmem hopen hheld
  refine wp_bind.mpr (wp_check.mpr fun assn' hassn => ?_)
  obtain rfl := Option.some.inj (orRaise_eq_ok.mp hassn)
  refine wp_bind.mpr (wp_lockCrew ?_ fun _ _ _ => wp_orRaise_none)
  intro db₂ held₂ newCrew hlater₂ _ _ _
  have hmem₂ := assignment_kept hmem hheld hlater₂.2
  have hheld₂ := hlater₂.1 _ hheld
  refine wp_bind.mpr (wp_check.mpr fun _ _ => wp_bind.mpr (wp_check.mpr fun _ _ => ?_))
  refine wp_bind.mpr (wp_closeAssignment fun db₃ held₃ hlater₃ => ?_)
  exact wp_seeing_commits hlater₃.2.2 (pending_endAssignment
    (assignment_kept hmem₂ hheld₂ hlater₃.2) hopen (hlater₃.1 _ hheld₂)) wp_assignRoute

/-- A crew that is found by its driver or its vehicle is closed with its assignment. -/
theorem wp_forceClose {p : Crew → Bool} {assignmentReason : RouteCrewUnassignReason} :
    crewDiscipline.wp crewDiscipline.Commits (do
      let crew ← (.selectForUpdate .crew CrewDb.crews fun c => p c && c.isOpen : CrewTxn _)
      forceClose ctx reason assignmentReason crew) db held := by
  refine wp_bind.mpr (wp_lockCrew ?_ ?_)
  · intro db₁ held₁ crew _ hmem hmatch hheld
    have hopen := (Bool.and_eq_true_iff.mp hmatch).2
    refine wp_bind.mpr (wp_lockOpenForCrew hheld fun found db₂ held₂ hlater₂ hfound => ?_)
    exact wp_closeCrewAndAssignment (crew_kept hmem hheld hlater₂.2) hopen
      (hlater₂.1 _ hheld) hfound
  · exact fun db₁ held₁ hlater₁ => ⟨hlater₁.2.2, crewDiscipline.refl _ _⟩

/-- Each operation keeps the discipline on its own. -/
theorem CrewOp.keeps (ctx : CrewContext) (op : CrewOp) (db : CrewDb) :
    crewDiscipline.Keeps (op.txn ctx) db fun _ => False := by
  intro db' _
  cases op with
  | openCrew driverId vehicleId notes => exact wp_openCrew
  | closeCrew crewId reason force => exact wp_closeCrew
  | reassignVehicleForDriver driverId newVehicleId reason notes => exact wp_reassign
  | reassignDriverForVehicle vehicleId newDriverId reason notes => exact wp_reassign
  | assignRoute routeId crewId => exact wp_assignRoute
  | unassignRoute routeId reason => exact wp_unassignRoute
  | swapRouteCrew routeId newCrewId reason => exact wp_swapRouteCrew
  | forceCloseForDriver driverId reason => exact wp_forceClose
  | forceCloseForVehicle vehicleId reason => exact wp_forceClose

end

/-! ### All operations together -/

section Schedules

variable {T : Type} [DecidableEq T]

/-- The transactions of a number of requests before any of them has started. -/
def crewStart (db : CrewDb) (ctx : T → CrewContext) (op : T → CrewOp) :
    State CrewDb CrewLock T (Rest CrewDb CrewLock ServiceError) :=
  .start db fun t => some ((op t).txn (ctx t))

/-- What is committed after a schedule of a number of requests. -/
def crewsAfter (db : CrewDb) (ctx : T → CrewContext) (op : T → CrewOp)
    (events : List (Event T)) : CrewDb :=
  (Runs.run (step (transactions CrewDb CrewLock ServiceError)) (crewStart db ctx op)
    events).store

/-- **Crews are exclusive.** Along every schedule of any number of requests, every committed
state has at most one open crew for each driver and vehicle, at most one open assignment for
each route and crew, and only open crews have open assignments; and a crew or an assignment
that has ended stays as it is in every later state. -/
theorem crews_exclusive {db : CrewDb} (hdb : CrewInv db) (ctx : T → CrewContext)
    (op : T → CrewOp) (events : List (Event T)) :
    CrewInv (crewsAfter db ctx op events) ∧
      ∀ pre post, events = pre ++ post →
        (∀ crew ∈ (crewsAfter db ctx op pre).crews.rows, crew.endedAt ≠ none →
          crew ∈ (crewsAfter db ctx op events).crews.rows) ∧
        ∀ assn ∈ (crewsAfter db ctx op pre).assignments.rows, assn.unassignedAt ≠ none →
          assn ∈ (crewsAfter db ctx op events).assignments.rows := by
  have hstart : crewDiscipline.outline.Sound (crewStart db ctx op) := by
    refine Outline.sound_start hdb fun t p hp => ?_
    obtain rfl := Option.some.inj hp
    exact (op t).keeps (ctx t) db
  refine ⟨(hstart.run events).inv, ?_⟩
  rintro pre post rfl
  have hevolves := evolves_run (hstart.run pre) post
  rw [← Runs.run_append] at hevolves
  constructor
  · intro crew hmem hended
    refine hevolves.crews.mem_of_ended hmem ?_
    rw [Crew.isOpen, Option.isNone_eq_false_iff]
    exact Option.isSome_iff_ne_none.mpr hended
  · intro assn hmem hended
    refine hevolves.assignments.mem_of_ended hmem ?_
    rw [RouteCrewAssignment.isOpen, Option.isNone_eq_false_iff]
    exact Option.isSome_iff_ne_none.mpr hended

end Schedules

/-! ### Two dispatchers pair the same driver -/

/-- Before the first crew. -/
def noCrews : CrewDb := ⟨.empty, .empty⟩

/-- Who acts, at noon. -/
def dispatcher : CrewContext := ⟨some 1, 0, 0⟩

/-- The first transaction pairs driver 1 with vehicle 1, every other one with vehicle 2. -/
def pairTwice (t : ℕ) : CrewOp :=
  if t = 0 then .openCrew 1 1 none else .openCrew 1 2 none

/-- Both try at once: the second waits for the index entry of the driver and then finds it
taken. -/
def bothAtOnce : List (Event ℕ) :=
  [.step 0, .step 1, .step 0, .step 1, .step 0, .step 1, .step 1]

/-- Only the first crew is there. -/
theorem driver_paired_once :
    CrewInv noCrews ∧ CrewInv (crewsAfter noCrews (fun _ => dispatcher) pairTwice bothAtOnce) ∧
      (crewsAfter noCrews (fun _ => dispatcher) pairTwice bothAtOnce).crews.rows.map Crew.pair
        = [(some 1, some 1)] := by
  have hempty : CrewInv noCrews := by
    constructor <;> exact fun _ h => absurd h List.not_mem_nil
  exact ⟨hempty, (crews_exclusive hempty (fun _ => dispatcher) pairTwice bothAtOnce).1,
    by decide +kernel⟩

end SwCouriers
