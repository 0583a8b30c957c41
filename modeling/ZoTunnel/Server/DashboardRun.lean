import ZoTunnel.Server.Dashboard

/-!
# Dashboard sessions over a run

The dashboard as a transition system: logins, logouts and protected requests from any number of
visitors, in any order, while time passes and the rest of the server goes on. The history of a run
lists what was presented to `api_login` and `api_logout`, with the newest first. `Live` says on the
history alone which session ids are valid at a time, and `SessionsKept` relates the store to it: the
store holds every live session, and each one that it holds was created and not logged out since.

From these follows `dashboard_sessions`: a protected handler returns its data exactly to the
requests that carry a live session id, and an id that was created and is not live never becomes so
again.
-/

namespace ZoTunnel

open Transition

/-- What a visitor presented to the dashboard. -/
inductive DashboardEvent where
  /-- A login with this token, and the id of the session that it created, if it did. -/
  | login (token : String) (created : Option String) (now : Instant)
  /-- A logout with the session id that its request carried. -/
  | logout (presented : Option String)
  deriving DecidableEq, Repr

/-- The id of the session that an event created. -/
def DashboardEvent.created : DashboardEvent → Option String
  | .login _ created _ => created
  | .logout _ => none

/-- A protected handler. -/
inductive ProtectedHandler where
  | status
  | clients
  | metrics
  deriving DecidableEq, Repr

/-- The handler's function. -/
def ProtectedHandler.run (handler : ProtectedHandler) (server : ServerState)
    (state : DashboardState) (headers : Headers) (now : Instant) :
    DashboardResponse × DashboardState :=
  match handler with
  | .status => apiStatus server state headers now
  | .clients => apiClients server state headers now
  | .metrics => apiMetrics server state headers now

/-- The data that the handler protects. -/
def ProtectedHandler.data (handler : ProtectedHandler) (server : ServerState)
    (state : DashboardState) (now : Instant) : Body :=
  match handler with
  | .status => .status "running" server.registry.count
  | .clients => .clients (server.registry.list now server.clientMetrics)
  | .metrics => .metrics (server.metrics.snapshot state.startedAt now)

/-- The dashboard, the server that it is part of, the clock, and the history. -/
structure DashboardRun where
  server : ServerState
  dashboard : DashboardState
  now : Instant
  history : List DashboardEvent

/-- A step of a run. -/
inductive DashboardStep where
  /-- A login with a token. `newId` is the uuid of the session that it creates, if it does. -/
  | login (headers : Headers) (token newId : String)
  | logout (headers : Headers)
  | authCheck (headers : Headers)
  | protectedRequest (handler : ProtectedHandler) (headers : Headers)
  /-- Time passes. -/
  | tick (nanos : ℕ)
  /-- A client session or a proxied request takes a step. -/
  | server (l : ServerStep)

/-- One step of a run. A uuid is not that of a session created before. -/
def dashboardStep (config : ServerConfig) (S : Serde) (s : DashboardRun) :
    DashboardStep → Option DashboardRun
  | .login headers token newId =>
    if newId ∈ s.history.filterMap DashboardEvent.created then none
    else
      let (response, dashboard) := apiLogin s.dashboard headers token newId s.now
      let created := response.setCookie.map fun _ => newId
      some { s with dashboard, history := .login token created s.now :: s.history }
  | .logout headers =>
    let (_, dashboard) := apiLogout s.dashboard headers
    some { s with dashboard, history := .logout (extractSessionId headers) :: s.history }
  | .authCheck headers =>
    some { s with dashboard := (apiAuthCheck s.dashboard headers s.now).2 }
  | .protectedRequest handler headers =>
    some { s with dashboard := (handler.run s.server s.dashboard headers s.now).2 }
  | .tick nanos => some { s with now := s.now + nanos }
  | .server l => (serverStep config S s.server l).map fun server => { s with server }

/-! ## Live sessions -/

/-- The session `id` was created at a time by a login with the token, and has not been presented to
a logout since. -/
def Held (token : String) (history : List DashboardEvent) (id : String) (createdAt : Instant) :
    Prop :=
  ∃ newer older, history = newer ++ .login token (some id) createdAt :: older ∧
    .logout (some id) ∉ newer

/-- The session `id` is held, and was created less than the TTL ago. -/
def Live (token : String) (ttlSecs : ℕ) (history : List DashboardEvent) (now : Instant)
    (id : String) : Prop :=
  ∃ createdAt, Held token history id createdAt ∧ now - createdAt < ttlSecs * 1000000000

/-- The protected handlers return their data exactly to the requests with a live session id. -/
def DataNeedsLive (token : String) (ttlSecs : ℕ) (s : DashboardRun) : Prop :=
  ∀ (handler : ProtectedHandler) (headers : Headers),
    (handler.run s.server s.dashboard headers s.now).1 =
        ⟨200, none, handler.data s.server s.dashboard s.now⟩ ↔
      ∃ id, extractSessionId headers = some id ∧ Live token ttlSecs s.history s.now id

/-- An id that was created and is not live does not become live again, whatever happens next. -/
def DeadForGood (config : ServerConfig) (S : Serde) (token : String) (ttlSecs : ℕ)
    (s : DashboardRun) : Prop :=
  ∀ id, id ∈ s.history.filterMap DashboardEvent.created →
    ¬ Live token ttlSecs s.history s.now id → ∀ later, Visits (dashboardStep config S)
      (fun s' => ¬ Live token ttlSecs s'.history s'.now id) s later

variable {token : String} {ttlSecs : ℕ} {history : List DashboardEvent} {id : String}
  {createdAt now : Instant} {config : ServerConfig} {S : Serde}

/-- A session is held after an event when the event created it, or when it was held before and the
event was not its logout. -/
theorem held_cons {e : DashboardEvent} :
    Held token (e :: history) id createdAt ↔
      e = .login token (some id) createdAt ∨
        e ≠ .logout (some id) ∧ Held token history id createdAt := by
  constructor
  · rintro ⟨newer, older, heq, hlogout⟩
    cases newer with
    | nil => exact .inl (List.cons.inj heq).1
    | cons e' newer =>
      obtain ⟨rfl, hrest⟩ := List.cons.inj heq
      rw [List.mem_cons, not_or] at hlogout
      exact .inr ⟨fun h => hlogout.1 h.symm, newer, older, hrest, hlogout.2⟩
  · rintro (rfl | ⟨hne, newer, older, rfl, hlogout⟩)
    · exact ⟨[], history, rfl, List.not_mem_nil⟩
    · refine ⟨e :: newer, older, rfl, ?_⟩
      rw [List.mem_cons, not_or]
      exact ⟨fun h => hne h.symm, hlogout⟩

/-- A held session was created. -/
theorem Held.mem_created (h : Held token history id createdAt) :
    id ∈ history.filterMap DashboardEvent.created := by
  obtain ⟨newer, older, rfl, -⟩ := h
  refine List.mem_filterMap.mpr ⟨_, List.mem_append_right _ List.mem_cons_self, rfl⟩

/-- The TTL in whole seconds, as the code compares it. -/
theorem secsSince_lt_iff : secsSince now createdAt < ttlSecs ↔
    now - createdAt < ttlSecs * 1000000000 := by
  unfold secsSince
  exact Nat.div_lt_iff_lt_mul (by decide)

/-! ## The invariant -/

/-- The store and the history of a run with a dashboard token and a TTL. -/
structure SessionsKept (token : String) (ttlSecs : ℕ) (s : DashboardRun) : Prop where
  enabled : s.dashboard.authEnabled = true
  tokenEq : s.dashboard.dashboardToken = token
  ttlEq : s.dashboard.sessions.ttlSecs = ttlSecs
  sound : ∀ id createdAt, s.dashboard.sessions.sessions.lookup id = some createdAt →
    Held token s.history id createdAt
  complete : ∀ id createdAt, Held token s.history id createdAt →
    secsSince s.now createdAt < ttlSecs →
      s.dashboard.sessions.sessions.lookup id = some createdAt

/-- A token is valid exactly if it is the dashboard's. -/
theorem SessionsKept.validate_iff {s : DashboardRun} (hinv : SessionsKept token ttlSecs s)
    (htoken : token ≠ "") {presented : String} :
    validateDashboardToken s.dashboard.dashboardToken presented = true ↔ presented = token := by
  have hne : ¬ token.isEmpty = true := fun hempty => htoken (String.isEmpty_iff.mp hempty)
  unfold validateDashboardToken
  rw [hinv.tokenEq, if_neg hne, beq_iff_eq]
  exact eq_comm

/-- The invariant is kept when the store is pruned, and nothing else happens. -/
theorem SessionsKept.prune {s : DashboardRun} (hinv : SessionsKept token ttlSecs s)
    {sessions : SessionStore} (hprunes : s.dashboard.sessions.Prunes sessions s.now) :
    SessionsKept token ttlSecs { s with dashboard := { s.dashboard with sessions } } where
  enabled := hinv.enabled
  tokenEq := hinv.tokenEq
  ttlEq := hprunes.ttlSecs.trans hinv.ttlEq
  sound id t h := hinv.sound id t (hprunes.sound id t h)
  complete id t h hlive := by
    have hlookup := hinv.complete id t h hlive
    rw [← hinv.ttlEq] at hlive
    exact hprunes.complete id t hlookup hlive

/-- The invariant is kept by an event that neither creates a session nor ends one. -/
theorem SessionsKept.record {s : DashboardRun} (hinv : SessionsKept token ttlSecs s)
    {e : DashboardEvent} (hcreated : e.created = none) (hlogout : ∀ id, e ≠ .logout (some id)) :
    SessionsKept token ttlSecs { s with history := e :: s.history } where
  enabled := hinv.enabled
  tokenEq := hinv.tokenEq
  ttlEq := hinv.ttlEq
  sound id t h := held_cons.mpr (.inr ⟨hlogout id, hinv.sound id t h⟩)
  complete id t h hlive := by
    rcases held_cons.mp h with rfl | ⟨-, hheld⟩
    · cases hcreated
    · exact hinv.complete id t hheld hlive

/-- The invariant is kept by a login that creates a session with a new id. -/
theorem SessionsKept.create {s : DashboardRun} (hinv : SessionsKept token ttlSecs s)
    {newId : String} (hnew : newId ∉ s.history.filterMap DashboardEvent.created) :
    SessionsKept token ttlSecs { s with
      dashboard := { s.dashboard with sessions := s.dashboard.sessions.create newId s.now }
      history := .login token (some newId) s.now :: s.history } where
  enabled := hinv.enabled
  tokenEq := hinv.tokenEq
  ttlEq := hinv.ttlEq
  sound id t h := by
    unfold SessionStore.create at h
    rcases eq_or_ne id newId with rfl | hne
    · rw [AList.lookup_insert] at h
      rw [Option.some.inj h]
      exact held_cons.mpr (.inl rfl)
    · rw [AList.lookup_insert_ne hne] at h
      exact held_cons.mpr (.inr ⟨nofun, hinv.sound id t h⟩)
  complete id t h hlive := by
    unfold SessionStore.create
    rcases held_cons.mp h with heq | ⟨-, hheld⟩
    · obtain ⟨-, hid, rfl⟩ := DashboardEvent.login.inj heq
      rw [Option.some.inj hid, AList.lookup_insert]
    · -- A session created before has another id.
      have hne : id ≠ newId := by
        rintro rfl
        exact hnew hheld.mem_created
      rw [AList.lookup_insert_ne hne]
      exact hinv.complete id t hheld hlive

/-- The invariant is kept by a logout. -/
theorem SessionsKept.logout {s : DashboardRun} (hinv : SessionsKept token ttlSecs s)
    (headers : Headers) : SessionsKept token ttlSecs { s with
      dashboard := (apiLogout s.dashboard headers).2
      history := .logout (extractSessionId headers) :: s.history } := by
  unfold apiLogout
  cases extractSessionId headers with
  | none => exact hinv.record rfl nofun
  | some presented =>
    refine ⟨hinv.enabled, hinv.tokenEq, hinv.ttlEq, fun id t h => ?_, fun id t h hlive => ?_⟩
    · dsimp only [SessionStore.invalidate] at h
      rcases eq_or_ne id presented with rfl | hne
      · rw [AList.lookup_erase] at h
        cases h
      · rw [AList.lookup_erase_ne hne] at h
        refine held_cons.mpr (.inr ⟨fun heq => hne ?_, hinv.sound id t h⟩)
        exact (Option.some.inj (DashboardEvent.logout.inj heq)).symm
    · dsimp only [SessionStore.invalidate]
      rcases held_cons.mp h with heq | ⟨hne, hheld⟩
      · cases heq
      · have hid : id ≠ presented := by
          rintro rfl
          exact hne rfl
        rw [AList.lookup_erase_ne hid]
        exact hinv.complete id t hheld hlive

/-- The check of a request keeps the invariant. -/
theorem SessionsKept.authenticate {s : DashboardRun} (hinv : SessionsKept token ttlSecs s)
    (headers : Headers) : SessionsKept token ttlSecs
      { s with dashboard := (isAuthenticated s.dashboard headers s.now).2 } := by
  obtain ⟨sessions, hstate, hprunes⟩ := isAuthenticated_state s.dashboard headers s.now
  rw [hstate]
  exact hinv.prune hprunes

/-- Every step keeps the invariant. -/
theorem SessionsKept.step {s s' : DashboardRun} {l : DashboardStep}
    (hinv : SessionsKept token ttlSecs s) (htoken : token ≠ "")
    (h : dashboardStep config S s l = some s') : SessionsKept token ttlSecs s' := by
  cases l with
  | login headers presented newId =>
    unfold dashboardStep at h
    dsimp only at h
    split_ifs at h with hnew
    obtain rfl := Option.some.inj h
    obtain ⟨sessions, hprunes, hcases⟩ :=
      apiLogin_cases hinv.enabled headers presented newId s.now
    have hpruned := hinv.prune hprunes
    rcases hcases with ⟨hcookie, hstate⟩ | ⟨hcookie, hvalid, hstate⟩
    · rw [hcookie, hstate]
      exact hpruned.record rfl nofun
    · obtain rfl := (hinv.validate_iff htoken).mp hvalid
      obtain ⟨cookie, hcookie⟩ := Option.isSome_iff_exists.mp hcookie
      rw [hcookie, hstate]
      exact hpruned.create hnew
  | logout headers =>
    obtain rfl := Option.some.inj h
    exact hinv.logout headers
  | authCheck headers =>
    obtain rfl := Option.some.inj h
    exact hinv.authenticate headers
  | protectedRequest handler headers =>
    obtain rfl := Option.some.inj h
    have hstate : (handler.run s.server s.dashboard headers s.now).2 =
        (isAuthenticated s.dashboard headers s.now).2 := by
      cases handler <;> exact guarded_state _ _ _ _
    rw [hstate]
    exact hinv.authenticate headers
  | tick nanos =>
    obtain rfl := Option.some.inj h
    refine ⟨hinv.enabled, hinv.tokenEq, hinv.ttlEq, hinv.sound, fun id t h hlive => ?_⟩
    -- A session that has not expired had not expired before.
    have hearlier : s.now - t ≤ s.now + nanos - t :=
      Nat.sub_le_sub_right (Nat.le_add_right s.now nanos) t
    have hlt := secsSince_lt_iff.mp hlive
    exact hinv.complete id t h (secsSince_lt_iff.mpr (Nat.lt_of_le_of_lt hearlier hlt))
  | server l =>
    obtain ⟨server, -, rfl⟩ := Option.map_eq_some_iff.mp h
    exact ⟨hinv.enabled, hinv.tokenEq, hinv.ttlEq, hinv.sound, hinv.complete⟩

/-- In every state that keeps the invariant, a request is authenticated by a live session. -/
theorem SessionsKept.isAuthenticated_iff {s : DashboardRun} (hinv : SessionsKept token ttlSecs s)
    (headers : Headers) : (isAuthenticated s.dashboard headers s.now).1 = true ↔
      ∃ id, extractSessionId headers = some id ∧ Live token ttlSecs s.history s.now id := by
  have hlive : ∀ id, (s.dashboard.sessions.validate id s.now).1 = true ↔
      Live token ttlSecs s.history s.now id := by
    intro id
    rw [SessionStore.validate_eq_true_iff, hinv.ttlEq]
    constructor
    · rintro ⟨createdAt, hlookup, hlt⟩
      exact ⟨createdAt, hinv.sound id createdAt hlookup, secsSince_lt_iff.mp hlt⟩
    · rintro ⟨createdAt, hheld, hlt⟩
      have hsecs := secsSince_lt_iff.mpr hlt
      exact ⟨createdAt, hinv.complete id createdAt hheld hsecs, hsecs⟩
  rw [isAuthenticated_eq_true_iff hinv.enabled]
  simp only [hlive]

/-- So the protected handlers need a live session. -/
theorem SessionsKept.dataNeedsLive {s : DashboardRun} (hinv : SessionsKept token ttlSecs s) :
    DataNeedsLive token ttlSecs s := by
  intro handler headers
  have hguarded : (handler.run s.server s.dashboard headers s.now).1 =
        ⟨200, none, handler.data s.server s.dashboard s.now⟩ ↔
      (isAuthenticated s.dashboard headers s.now).1 = true := by
    cases handler <;> exact guarded_eq_data_iff
  rw [hguarded, hinv.isAuthenticated_iff]

/-- An id that was created and is not live does not become live in a step. -/
theorem not_live_step {s s' : DashboardRun} {l : DashboardStep}
    (h : dashboardStep config S s l = some s')
    (hcreated : id ∈ s.history.filterMap DashboardEvent.created)
    (hdead : ¬ Live token ttlSecs s.history s.now id) :
    id ∈ s'.history.filterMap DashboardEvent.created ∧
      ¬ Live token ttlSecs s'.history s'.now id := by
  -- An event that does not create the session leaves it as dead as it was.
  have hevent : ∀ e : DashboardEvent, e.created ≠ some id →
      id ∈ (e :: s.history).filterMap DashboardEvent.created ∧
        ¬ Live token ttlSecs (e :: s.history) s.now id := by
    intro e he
    constructor
    · obtain ⟨e', he', hid⟩ := List.mem_filterMap.mp hcreated
      exact List.mem_filterMap.mpr ⟨e', List.mem_cons_of_mem _ he', hid⟩
    · rintro ⟨createdAt, hheld, hlt⟩
      rcases held_cons.mp hheld with rfl | ⟨-, hheld⟩
      · exact he rfl
      · exact hdead ⟨createdAt, hheld, hlt⟩
  cases l with
  | login headers presented newId =>
    unfold dashboardStep at h
    dsimp only at h
    split_ifs at h with hnew
    obtain rfl := Option.some.inj h
    refine hevent _ fun heq => ?_
    obtain ⟨-, -, hid⟩ := Option.map_eq_some_iff.mp heq
    exact hnew (hid ▸ hcreated)
  | logout headers =>
    obtain rfl := Option.some.inj h
    exact hevent _ nofun
  | authCheck headers =>
    obtain rfl := Option.some.inj h
    exact ⟨hcreated, hdead⟩
  | protectedRequest handler headers =>
    obtain rfl := Option.some.inj h
    exact ⟨hcreated, hdead⟩
  | tick nanos =>
    obtain rfl := Option.some.inj h
    refine ⟨hcreated, ?_⟩
    rintro ⟨createdAt, hheld, hlt⟩
    have hearlier : s.now - createdAt ≤ s.now + nanos - createdAt :=
      Nat.sub_le_sub_right (Nat.le_add_right s.now nanos) createdAt
    exact hdead ⟨createdAt, hheld, Nat.lt_of_le_of_lt hearlier hlt⟩
  | server l =>
    obtain ⟨server, -, rfl⟩ := Option.map_eq_some_iff.mp h
    exact ⟨hcreated, hdead⟩

/-- An id that was created and is not live stays so along every run. -/
theorem deadForGood (s : DashboardRun) : DeadForGood config S token ttlSecs s := by
  intro id hcreated hdead later
  have hstays : Visits (dashboardStep config S)
      (fun s => id ∈ s.history.filterMap DashboardEvent.created ∧
        ¬ Live token ttlSecs s.history s.now id) s later :=
    visits_of_invariant (fun _ _ _ hinv h => not_live_step h hinv.1 hinv.2) ⟨hcreated, hdead⟩ later
  exact hstays.mono fun _ h => h.2

/-- In every state of a run of a dashboard with a token, a protected handler returns its data
exactly to the requests with a session id that was created by a login with the token, has not been
presented to a logout since, and was created less than the TTL ago. An id that was created and is
not live in a state stays so along every run from there. -/
theorem dashboard_sessions (config : ServerConfig) (S : Serde) (server : ServerState)
    (token : String) (ttlSecs : ℕ) (tlsEnabled : Bool) (domain : String)
    (caddyManager : Option CaddyManager) (startedAt now : Instant) (htoken : token ≠ "")
    (labels : List DashboardStep) :
    Visits (dashboardStep config S)
      (fun s => DataNeedsLive token ttlSecs s ∧ DeadForGood config S token ttlSecs s)
      ⟨server, .new token ttlSecs tlsEnabled domain caddyManager startedAt, now, []⟩ labels := by
  have hstart : SessionsKept token ttlSecs
      ⟨server, .new token ttlSecs tlsEnabled domain caddyManager startedAt, now, []⟩ := by
    refine ⟨?_, rfl, rfl, fun id t h => ?_, fun id t h _ => ?_⟩
    · show (!token.isEmpty) = true
      rw [Bool.not_eq_true', Bool.eq_false_iff]
      exact fun hempty => htoken (String.isEmpty_iff.mp hempty)
    · have hnone : (AList.lookup id (∅ : AList fun _ : String => Instant)) = none :=
        AList.lookup_empty id
      exact absurd (hnone.symm.trans h) nofun
    · obtain ⟨newer, older, heq, -⟩ := h
      simp at heq
  have hkept : Visits (dashboardStep config S) (SessionsKept token ttlSecs) _ labels :=
    visits_of_invariant (fun _ _ _ hinv h => hinv.step htoken h) hstart labels
  exact hkept.mono fun s hinv => ⟨hinv.dataNeedsLive, deadForGood s⟩

/-- The headers of a request with a session cookie. -/
def withCookie (cookie : Header.Value) : Headers := ⟨none, some cookie, none⟩

/-- The cookie of the session `a1`. -/
def cookieA1 : Header.Value :=
  .ofText "zo-session=a1" (by decide) (by decide) (by decide)

/-- A run with a login, a request, an hour, and a logout, with a TTL of 3600 s. -/
theorem dashboard_sessions_run :
    Visits (dashboardStep ⟨6210, "tunnel.example.com", ⟨["t0k"]⟩⟩ handshakeSerde)
      (fun s => DataNeedsLive "s3cret" 3600 s ∧
        DeadForGood ⟨6210, "tunnel.example.com", ⟨["t0k"]⟩⟩ handshakeSerde "s3cret" 3600 s)
      ⟨.new 100, .new "s3cret" 3600 false "tunnel.example.com" none 0, 0, []⟩
      [.login ⟨none, none, none⟩ "s3cret" "a1", .protectedRequest .clients (withCookie cookieA1),
        .tick 3600000000000, .protectedRequest .clients (withCookie cookieA1),
        .logout (withCookie cookieA1)] :=
  dashboard_sessions _ handshakeSerde (.new 100) "s3cret" 3600 false "tunnel.example.com" none 0 0
    (by decide) _

/-- In that run the session is valid right after the login, and not at the end of its last second.
-/
example :
    let config : ServerConfig := ⟨6210, "tunnel.example.com", ⟨["t0k"]⟩⟩
    let start : DashboardRun :=
      ⟨.new 100, .new "s3cret" 3600 false "tunnel.example.com" none 0, 0, []⟩
    let login : DashboardStep := .login ⟨none, none, none⟩ "s3cret" "a1"
    let validAt (nanos : ℕ) := (exec (dashboardStep config handshakeSerde) start
      [login, .tick nanos]).map fun s =>
        (isAuthenticated s.dashboard (withCookie cookieA1) s.now).1
    validAt 3599999999999 = some true ∧ validAt 3600000000000 = some false := by decide

end ZoTunnel
