import SwCouriers.AuthEffects
import SwCouriers.Lib.Runs

/-!
# Account Lockout

A login with a wrong password counts the failure, and locks the account when there were enough
of them; then it raises. The session of the request is rolled back with it, so neither the
count nor the lock is ever committed: whatever was sent before, the right password is accepted.

## Main results

* `lockout_engages_iff`: the lockout engages in every run of login requests for an account
  exactly when nobody can log in to the account anyway; a login that succeeds leaves the count
  at zero, and one that fails leaves the tables as they were.
-/

namespace SwCouriers.Auth

open Checked Requests Runs

/-! ### Runs of login requests -/

/-- A login request, some time after the one before it. -/
structure LoginRequest where
  elapsed : ℕ
  ctx : RequestContext
  email : String
  password : String

/-- What a login request is answered with, and the state it leaves. -/
def LoginRequest.submit (env : AuthEnv) (s : AuthState) (r : LoginRequest) :
    Except ServiceError TokenData × AuthState :=
  Auth.submit r.elapsed (login env r.ctx r.email r.password) s

/-- The request was accepted. -/
def LoginRequest.Accepted (env : AuthEnv) (s : AuthState) (r : LoginRequest) : Prop :=
  (r.submit env s).1.isOk = true

/-- The request names the account. -/
def LoginRequest.Concerns (env : AuthEnv) (userId : Id) (s : AuthState) (r : LoginRequest) :
    Prop :=
  ((s.db.findByEmail env r.email).any fun u => u.id = userId) = true

/-- The request has a wrong password for the account that it names. -/
def LoginRequest.WrongPassword (env : AuthEnv) (s : AuthState) (r : LoginRequest) : Prop :=
  ((s.db.findByEmail env r.email).any fun u =>
    !env.verifyPassword r.password u.passwordHash) = true

instance (env : AuthEnv) (s : AuthState) (r : LoginRequest) : Decidable (r.Accepted env s) :=
  inferInstanceAs (Decidable (_ = true))

instance (env : AuthEnv) (userId : Id) (s : AuthState) (r : LoginRequest) :
    Decidable (r.Concerns env userId s) := inferInstanceAs (Decidable (_ = true))

instance (env : AuthEnv) (s : AuthState) (r : LoginRequest) :
    Decidable (r.WrongPassword env s) := inferInstanceAs (Decidable (_ = true))

/-- The state, and when wrong passwords were sent for an account since its last login. -/
structure Watch where
  state : AuthState
  wrong : List Instant

/-- One more request. -/
def watchStep (env : AuthEnv) (userId : Id) (w : Watch) (r : LoginRequest) : Watch where
  state := (r.submit env w.state).2
  wrong :=
    if r.Concerns env userId w.state then
      if r.Accepted env w.state then []
      else if r.WrongPassword env w.state then w.wrong ++ [w.state.clock + r.elapsed]
      else w.wrong
    else w.wrong

/-- The account has to be locked: enough wrong passwords were sent, the last of them not longer
ago than the lockout lasts. -/
def Due (w : Watch) (r : LoginRequest) : Prop :=
  ∃ t ∈ w.wrong[maxLoginAttempts - 1]?,
    w.state.clock + r.elapsed < t + lockoutDurationMinutes * 60 * second

/-- While the account has to be locked, a request for it is rejected. -/
def Engages (env : AuthEnv) (userId : Id) (w : Watch) (r : LoginRequest) : Prop :=
  r.Concerns env userId w.state → Due w r → ¬ r.Accepted env w.state

/-- A request that is accepted leaves the count at zero. -/
def Resets (env : AuthEnv) (userId : Id) (w : Watch) (r : LoginRequest) : Prop :=
  r.Concerns env userId w.state → r.Accepted env w.state →
    ∀ u, (watchStep env userId w r).state.db.users.find? userId = some u →
      u.failedLoginAttempts = 0

/-- A request that is rejected leaves the tables as they were. -/
def LeavesNoTrace (env : AuthEnv) (userId : Id) (w : Watch) (r : LoginRequest) : Prop :=
  ¬ r.Accepted env w.state → (watchStep env userId w r).state.db = w.state.db

/-- Somebody can log in to the account: it is found, its status, its organisation and its
driver's account allow it, and some password is right. -/
def CanLogIn (env : AuthEnv) (userId : Id) (s : AuthState) : Prop :=
  ∃ email user password, s.db.findByEmail env email = some user ∧ user.id = userId ∧
    checkLoginStatus user = .ok () ∧
    assertB2bPortalAccess user (roleToClientType user.role) s = .ok () ∧
    (user.role = .driver → driverMayLogIn user s.db) ∧
    env.verifyPassword password user.passwordHash = true

/-- Identifiers that are drawn next are not in use, nor are the tokens that will carry them. -/
structure FreshUuids (env : AuthEnv) (s : AuthState) : Prop where
  sessions : ∀ session ∈ s.db.sessions.rows, session.sessionId < s.nextUuid
  tokens : ∀ jwt : RefreshJwt, s.nextUuid ≤ jwt.jti →
    s.db.refreshTokens.find? (env.hashToken jwt) = none

/-! ### Requests that fail -/

section

variable {env : AuthEnv} {userId : Id} {s : AuthState}
variable {r : LoginRequest}

theorem submit_of_not_accepted (h : ¬ r.Accepted env s) : (r.submit env s).2.db = s.db := by
  obtain ⟨result, s', hsubmit⟩ : ∃ result s', r.submit env s = (result, s') := ⟨_, _, rfl⟩
  rw [LoginRequest.Accepted, hsubmit] at h
  rw [hsubmit]
  cases result with
  | ok tokens => exact absurd rfl h
  | error e =>
      obtain ⟨s₁, -, rfl⟩ := inSession_error hsubmit
      rfl

theorem accepted_iff :
    r.Accepted env s ↔ ∃ tokens s', login env r.ctx r.email r.password (s.tick r.elapsed) =
      (.ok tokens, s') ∧ r.submit env s = (.ok tokens, s') := by
  obtain ⟨result, s', hsubmit⟩ : ∃ result s', r.submit env s = (result, s') := ⟨_, _, rfl⟩
  rw [LoginRequest.Accepted, hsubmit]
  cases result with
  | ok tokens =>
      refine ⟨fun _ => ⟨tokens, s', inSession_eq_ok.mp hsubmit, rfl⟩, fun _ => rfl⟩
  | error e => simp [Except.isOk, Except.toBool]

/-! ### Accounts along a run -/

/-- The account of a user is the same in both states. -/
structure SameAccount (userId : Id) (s s' : AuthState) : Prop where
  users : ∃ g : User → User, s'.db.users.rows = s.db.users.rows.map g ∧
    ∀ u, (g u).id = u.id ∧ (g u).email = u.email ∧ (u.id = userId → g u = u)
  driver : s'.db.drivers.find? userId = s.db.drivers.find? userId
  organizations : s'.db.organizations = s.db.organizations

theorem SameAccount.of_db_eq {s' : AuthState} (h : s'.db = s.db) : SameAccount userId s s' :=
  ⟨⟨id, by rw [h, List.map_id], fun _ => ⟨rfl, rfl, fun _ => rfl⟩⟩, by rw [h], by rw [h]⟩

theorem SameAccount.findByEmail {s' : AuthState} (h : SameAccount userId s s') {email : String}
    {user : User} (hfound : s'.db.findByEmail env email = some user) (hid : user.id = userId) :
    s.db.findByEmail env email = some user := by
  obtain ⟨g, hrows, hg⟩ := h.users
  rw [AuthDb.findByEmail, hrows, List.find?_map] at hfound
  obtain ⟨u, hu, rfl⟩ := Option.map_eq_some_iff.mp hfound
  have hsame : (fun u : User => decide (u.email = env.lower (strip email))) ∘ g =
      fun u => decide (u.email = env.lower (strip email)) :=
    funext fun u => by simp [(hg u).2.1]
  rw [hsame] at hu
  rw [(hg u).2.2 ((hg u).1.symm.trans hid)]
  exact hu

/-- Who cannot log in still cannot when the account is the same. -/
theorem SameAccount.canLogIn {s' : AuthState} (h : SameAccount userId s s')
    (hcan : CanLogIn env userId s') : CanLogIn env userId s := by
  obtain ⟨email, user, password, hfound, hid, hstatus, hportal, hdriver, hpassword⟩ := hcan
  refine ⟨email, user, password, h.findByEmail hfound hid, hid, hstatus, ?_, fun hrole => ?_,
    hpassword⟩
  · rwa [assertB2bPortalAccess, h.organizations] at hportal
  · obtain ⟨driver, hfind, hallowed⟩ := hdriver hrole
    rw [hid, h.driver, ← hid] at hfind
    exact ⟨driver, hfind, hallowed⟩

/-- A login to another account leaves this one as it is. -/
theorem sameAccount_of_accepted (hr : ¬ r.Concerns env userId s) (haccepted : r.Accepted env s) :
    SameAccount userId s (r.submit env s).2 := by
  obtain ⟨tokens, s', hlogin, hsubmit⟩ := accepted_iff.mp haccepted
  obtain ⟨user, hallowed, -, -, husers, hdrivers, horganizations⟩ := login_accounts hlogin
  have hne : userId ≠ user.id := by
    rintro rfl
    refine hr ?_
    rw [LoginRequest.Concerns, show s.db.findByEmail env r.email = some user from
      hallowed.found]
    simp
  rw [hsubmit]
  refine ⟨⟨_, congrArg Table.rows husers, fun u => ?_⟩, hdrivers userId hne, horganizations⟩
  by_cases hu : u.id = user.id
  · rw [if_pos hu]
    exact ⟨loggedIn_id u, preparedUser_email u, fun h => absurd (h.symm.trans hu) hne⟩
  · rw [if_neg hu]
    exact ⟨rfl, rfl, fun _ => rfl⟩

theorem canLogIn_of_accepted (hr : r.Concerns env userId s) (haccepted : r.Accepted env s) :
    CanLogIn env userId s := by
  obtain ⟨tokens, s', hlogin, -⟩ := accepted_iff.mp haccepted
  obtain ⟨user, hallowed, hpassword, hdriver, -⟩ := login_accounts hlogin
  have hfound : s.db.findByEmail env r.email = some user := hallowed.found
  have hid : user.id = userId := by
    rw [LoginRequest.Concerns, hfound] at hr
    simpa using hr
  refine ⟨r.email, user, r.password, hfound, hid, hallowed.status, ?_, fun hrole => ?_, hpassword⟩
  · rw [← hallowed.clientType]
    exact hallowed.portal
  · refine hdriver ?_
    rw [hallowed.clientType, hrole]
    rfl

/-- An account that nobody can log in to stays so, whatever is sent. -/
theorem not_canLogIn_submit (h : ¬ CanLogIn env userId s) :
    ¬ CanLogIn env userId (r.submit env s).2 := by
  by_cases haccepted : r.Accepted env s
  · have hother : ¬ r.Concerns env userId s := fun hr => h (canLogIn_of_accepted hr haccepted)
    exact fun hcan => h ((sameAccount_of_accepted hother haccepted).canLogIn hcan)
  · exact fun hcan => h ((SameAccount.of_db_eq (submit_of_not_accepted haccepted)).canLogIn hcan)

theorem along_engages_of_not_canLogIn {w : Watch} (h : ¬ CanLogIn env userId w.state)
    (requests : List LoginRequest) :
    Along (watchStep env userId) (Engages env userId) w requests := by
  induction requests generalizing w with
  | nil => trivial
  | cons r requests ih =>
      exact ⟨fun hr _ haccepted => h (canLogIn_of_accepted hr haccepted),
        ih (not_canLogIn_submit h)⟩

/-! ### Wrong passwords, and then the right one -/

section Attack

variable {ctx : RequestContext} {email password : String} {user : User}

/-- A failed login writes to the tables only. -/
theorem handleFailedLogin_apply (user : User) (s : AuthState) :
    ∃ db, handleFailedLogin user s = (.ok (), { s with db := db }) := by
  change ∃ db, Handler.when _ (writeDb _) (s.mapDb _) = (.ok (), { s with db := db })
  unfold Handler.when
  split
  · exact ⟨_, rfl⟩
  · exact ⟨_, rfl⟩

theorem login_of_wrong (hallowed : LoginAllowed env ctx email s user)
    (hwrong : env.verifyPassword password user.passwordHash = false) :
    ∃ db, login env ctx email password s =
      (.error (.authentication invalidCredentialsMessage), { s with db := db }) := by
  obtain ⟨db, hfailed⟩ := handleFailedLogin_apply user s
  refine ⟨db, ?_⟩
  have hlocked : ¬ (user.lockedUntil.any fun until_ => s.clock < until_) = true := by
    rw [hallowed.unlocked]
    decide
  have hclient : verifyClientTypeForRole ctx.clientType user.role = .ok () :=
    raiseIf_eq_ok.mpr (not_not.mpr hallowed.clientType)
  rw [login, bind_currentTime]
  refine (Handler.bind_lookup_of_ok (a := user) ?_).trans ?_
  · exact orRaise_eq_ok.mpr hallowed.found
  rw [Handler.bind_check_of_ok (a := ()) (raiseIf_eq_ok.mpr hlocked),
    Handler.bind_check_of_ok hallowed.status, Handler.bind_lookup_of_ok hallowed.portal,
    Handler.bind_check_of_ok hclient, if_neg (by rw [hwrong]; decide), Handler.bind_of_ok hfailed]
  rfl

variable {elapsed : ℕ}

/-- A wrong password leaves nothing behind but the time that has passed. -/
theorem submit_wrong (hallowed : LoginAllowed env ctx email (s.tick elapsed) user)
    (hwrong : env.verifyPassword password user.passwordHash = false) :
    LoginRequest.submit env s ⟨elapsed, ctx, email, password⟩ =
      (.error (.authentication invalidCredentialsMessage), s.tick elapsed) := by
  obtain ⟨db, hlogin⟩ := login_of_wrong hallowed hwrong
  rw [LoginRequest.submit, Auth.submit, inSession, hlogin]
  rfl

/-- The right password is accepted, whatever was sent before. -/
theorem accepted_of_allowed (hfresh : FreshUuids env s)
    (hallowed : LoginAllowed env ctx email (s.tick elapsed) user)
    (hdriver : user.role = .driver → driverMayLogIn user s.db)
    (hright : env.verifyPassword password user.passwordHash = true) :
    LoginRequest.Accepted env s ⟨elapsed, ctx, email, password⟩ := by
  have hclient : ctx.clientType = .driver → user.role = .driver := by
    rw [hallowed.clientType]
    cases user.role <;> simp [roleToClientType]
  let s₁ := (s.tick elapsed).mapDb (checkedDb env ctx user password)
  have hsession : (limitedDb user.id s₁.clock s₁.db).sessions.find? s₁.nextUuid = none := by
    rw [limitedDb_sessions, AuthState.mapDb_db, checkedDb, driverDb_sessions,
      preparedDb_sessions, Table.find?_eq_none_iff]
    intro hmem
    obtain ⟨session, hsession, hid⟩ := List.mem_map.mp hmem
    exact absurd hid (ne_of_lt (hfresh.sessions session hsession))
  have htoken : (limitedDb user.id s₁.clock s₁.db).refreshTokens.find?
      (env.hashToken (nextRefreshJwt env user ctx.clientType (withOpened env ctx user.id s₁))) =
      none := by
    rw [limitedDb_find?_eq_none, AuthState.mapDb_db, checkedDb, driverDb_refreshTokens,
      preparedDb_refreshTokens]
    exact hfresh.tokens _ (Nat.le_add_right s.nextUuid 2)
  obtain ⟨s', hissue⟩ : ∃ s', issueTokens env ctx user s₁ = (.ok _, s') :=
    ⟨_, issueTokens_eq_ok.mpr ⟨hsession, htoken, rfl, rfl⟩⟩
  have hlogin := login_eq_ok.mpr ⟨user, hallowed, hright, completeLogin_eq_ok.mpr
    ⟨fun h => hdriver (hclient h), _, hissue, rfl⟩⟩
  exact accepted_iff.mpr ⟨_, _, hlogin, inSession_eq_ok.mpr hlogin⟩

/-- How long a lock that is set will last at most. -/
def lockLeft (user : User) (s : AuthState) : ℕ :=
  ((user.lockedUntil.map fun until_ => until_ - s.clock).getD 0).toNat

theorem unlocked_of_lockLeft_le (h : lockLeft user s ≤ elapsed) :
    (user.lockedUntil.any fun until_ => (s.tick elapsed).clock < until_) = false := by
  cases hlock : user.lockedUntil with
  | none => rfl
  | some until_ =>
      rw [lockLeft, hlock] at h
      have hle : until_ - s.clock ≤ (elapsed : ℤ) := Int.toNat_le.mp h
      have hclock : (s.tick elapsed).clock = s.clock + elapsed := rfl
      rw [Option.any_some, decide_eq_false_iff_not, not_lt, hclock]
      linarith

theorem tick_tick (s : AuthState) (a b : ℕ) : (s.tick a).tick b = s.tick (a + b) := by
  simp [AuthState.tick, add_assoc]

/-- A wrong password, seen by who counts them. -/
theorem watchStep_wrong {wrong : List Instant}
    (hallowed : LoginAllowed env ctx email (s.tick elapsed) user)
    (hwrong : env.verifyPassword password user.passwordHash = false) :
    watchStep env user.id ⟨s, wrong⟩ ⟨elapsed, ctx, email, password⟩ =
      ⟨s.tick elapsed, wrong ++ [s.clock + elapsed]⟩ := by
  have hfound : s.db.findByEmail env email = some user := hallowed.found
  have hsubmit := submit_wrong hallowed hwrong
  have hconcerns : LoginRequest.Concerns env user.id s ⟨elapsed, ctx, email, password⟩ := by
    simp [LoginRequest.Concerns, hfound]
  have hrejected : ¬ LoginRequest.Accepted env s ⟨elapsed, ctx, email, password⟩ := by
    rw [LoginRequest.Accepted, hsubmit]
    exact Bool.false_ne_true
  have hbad : LoginRequest.WrongPassword env s ⟨elapsed, ctx, email, password⟩ := by
    simp [LoginRequest.WrongPassword, hfound, hwrong]
  rw [watchStep, if_pos hconcerns, if_neg hrejected, if_pos hbad, hsubmit]

/-- As many wrong passwords as one likes leave nothing behind. -/
theorem run_wrong (n : ℕ) {wrong : List Instant}
    (hallowed : LoginAllowed env ctx email (s.tick 0) user)
    (hwrong : env.verifyPassword password user.passwordHash = false) :
    run (watchStep env user.id) ⟨s, wrong⟩ (List.replicate n ⟨0, ctx, email, password⟩) =
      ⟨s, wrong ++ List.replicate n s.clock⟩ := by
  have htick : s.tick 0 = s := by simp [AuthState.tick]
  induction n generalizing wrong with
  | zero => simp
  | succ n ih =>
      rw [List.replicate_succ, run_cons, watchStep_wrong hallowed hwrong, htick, ih,
        List.replicate_succ]
      simp

/-- **The lockout fails for whoever can log in**: once the last lock has run out, enough wrong
passwords are followed by the right one. -/
theorem not_along_engages_of_canLogIn (hwrong : ∀ hash, ∃ p, env.verifyPassword p hash = false)
    (hfresh : FreshUuids env s) (hcan : CanLogIn env userId s) :
    ∃ requests, ¬ Along (watchStep env userId) (Engages env userId) ⟨s, []⟩ requests := by
  obtain ⟨email, user, password, hfound, rfl, hstatus, hportal, hdriver, hright⟩ := hcan
  obtain ⟨bad, hbad⟩ := hwrong user.passwordHash
  let ctx : RequestContext := ⟨roleToClientType user.role, none, none⟩
  let s₁ := s.tick (lockLeft user s)
  have hallowed : ∀ more, LoginAllowed env ctx email (s₁.tick more) user := by
    intro more
    have hle : lockLeft user s ≤ lockLeft user s + more := Nat.le_add_right _ _
    rw [tick_tick]
    exact ⟨hfound, unlocked_of_lockLeft_le hle, hstatus, hportal, rfl⟩
  have hfirst : LoginAllowed env ctx email (s.tick (lockLeft user s)) user :=
    ⟨hfound, unlocked_of_lockLeft_le le_rfl, hstatus, hportal, rfl⟩
  have hfresh₁ : FreshUuids env s₁ := ⟨hfresh.sessions, hfresh.tokens⟩
  -- four more wrong passwords at once, and the right one at the same moment
  let wrongs := ⟨lockLeft user s, ctx, email, bad⟩ ::
    List.replicate (maxLoginAttempts - 1) (⟨0, ctx, email, bad⟩ : LoginRequest)
  have hrun : run (watchStep env user.id) ⟨s, []⟩ wrongs =
      ⟨s₁, List.replicate maxLoginAttempts s₁.clock⟩ := by
    rw [run_cons, watchStep_wrong hfirst hbad, run_wrong _ (hallowed 0) hbad]
    rfl
  refine ⟨wrongs ++ [⟨0, ctx, email, password⟩], fun halong => ?_⟩
  have hengages := along_iff.mp halong wrongs _ [] rfl
  rw [hrun] at hengages
  refine hengages ?_ ⟨s₁.clock, rfl, ?_⟩ (accepted_of_allowed hfresh₁ (hallowed 0) hdriver hright)
  · change ((s.db.findByEmail env email).any fun u => u.id = user.id) = true
    simp [hfound]
  · change s₁.clock + ((0 : ℕ) : ℤ) < s₁.clock + lockoutDurationMinutes * 60 * second
    have hpositive : 0 < lockoutDurationMinutes * 60 * second := by decide
    simpa using hpositive

end Attack

/-! ### What a run of login requests keeps -/

theorem resets_watchStep (w : Watch) (r : LoginRequest) : Resets env userId w r := by
  intro hr haccepted u hu
  obtain ⟨tokens, s', hlogin, hsubmit⟩ := accepted_iff.mp haccepted
  obtain ⟨user, hallowed, -, -, husers, -⟩ := login_accounts hlogin
  have hfound : w.state.db.findByEmail env r.email = some user := hallowed.found
  have hid : user.id = userId := by
    rw [LoginRequest.Concerns, hfound] at hr
    simpa using hr
  have hstate : (watchStep env userId w r).state = s' := congrArg Prod.snd hsubmit
  rw [hstate, husers, ← hid, Table.find?_modify_self] at hu
  obtain ⟨u₀, hu₀, rfl⟩ := Option.map_eq_some_iff.mp hu
  have huser : u₀ = user := by
    have hmem : user ∈ w.state.db.users.rows := List.mem_of_find?_eq_some hfound
    exact Option.some.inj (hu₀.symm.trans (Table.find?_eq_some_iff.mpr ⟨hmem, rfl⟩))
  rw [huser]
  exact loggedIn_failedLoginAttempts

/-- **When the lockout engages**: in every run of login requests for an account, exactly if
nobody can log in to it at all; what a login that returns resets is committed, and what a login
that raises has counted is not. -/
theorem lockout_engages_iff (env : AuthEnv) (userId : Id) (s : AuthState)
    (hwrong : ∀ hash, ∃ p, env.verifyPassword p hash = false) (hfresh : FreshUuids env s) :
    ((∀ requests, Along (watchStep env userId) (Engages env userId) ⟨s, []⟩ requests) ↔
      ¬ CanLogIn env userId s) ∧
    (∀ requests, Along (watchStep env userId) (Resets env userId) ⟨s, []⟩ requests) ∧
    (∀ requests, Along (watchStep env userId) (LeavesNoTrace env userId) ⟨s, []⟩ requests) := by
  refine ⟨⟨fun hall hcan => ?_, fun hcan => along_engages_of_not_canLogIn hcan⟩, ?_, ?_⟩
  · obtain ⟨requests, hnot⟩ := not_along_engages_of_canLogIn hwrong hfresh hcan
    exact hnot (hall requests)
  · exact fun requests => along_iff.mpr fun pre r post _ => resets_watchStep _ r
  · exact fun requests => along_iff.mpr fun pre r post _ => submit_of_not_accepted

end

/-- A login of the administrator's, right after the request before it. -/
def adaLogin (password : String) : LoginRequest :=
  ⟨0, ⟨.admin, none, none⟩, "ada", password⟩

theorem lockout_never_engages_for_ada :
    (∀ hash, ∃ p, plainEnv.verifyPassword p hash = false) ∧ FreshUuids plainEnv adaState ∧
    ¬ ∀ requests, Along (watchStep plainEnv 1) (Engages plainEnv 1) ⟨adaState, []⟩ requests := by
  have hwrong : ∀ hash, ∃ p, plainEnv.verifyPassword p hash = false := by
    intro hash
    refine ⟨hash ++ "x", decide_eq_false fun heq => ?_⟩
    simpa using congrArg String.length heq
  have hfresh : FreshUuids plainEnv adaState :=
    ⟨fun _ h => absurd h List.not_mem_nil, fun _ _ => rfl⟩
  have hcan : CanLogIn plainEnv 1 adaState :=
    ⟨"ada", ada, "secret", by decide +kernel, rfl, rfl, rfl, fun h => absurd h (by decide),
      by decide +kernel⟩
  exact ⟨hwrong, hfresh,
    fun hall => (lockout_engages_iff plainEnv 1 adaState hwrong hfresh).1.mp hall hcan⟩

/-- **The right password is accepted at once after any number of wrong ones.** -/
theorem right_password_after_five_wrong :
    ¬ ∀ (env : AuthEnv) (userId : Id) (s : AuthState) (requests : List LoginRequest),
      Along (watchStep env userId) (Engages env userId) ⟨s, []⟩ requests := by
  intro hall
  have hrun := along_iff.mp (hall plainEnv 1 adaState
    (List.replicate 5 (adaLogin "guess") ++ [adaLogin "secret"])) _ _ [] rfl
  refine hrun ?_ ⟨0, ?_, ?_⟩ ?_
  · decide +kernel
  · decide +kernel
  · decide +kernel
  · decide +kernel

end SwCouriers.Auth
