import Mathlib.Data.List.AList
import ZoTunnel.Lib.Header
import ZoTunnel.Server.Caddy
import ZoTunnel.Server.Session

/-!
# Dashboard

The dashboard's REST API with its sessions (`dashboard.rs`). A handler takes the state, the headers
of the request, and the clock, and returns its response with the state after it. The registry and
the metrics that `DashboardState` shares with the proxy are those of the server's state, which the
handlers that read them take beside it.

The session store keeps the time at which each session was created. A session that has expired
stays in the store until `validate` finds it there.
-/

namespace ZoTunnel

/-! ## Session management -/

/-- The session store: when each session was created, by its id. -/
structure SessionStore where
  sessions : AList fun _ : String => Instant
  ttlSecs : ℕ

namespace SessionStore

/-- `SessionStore::new`. -/
def new (ttlSecs : ℕ) : SessionStore := ⟨∅, ttlSecs⟩

/-- Create a new session. `id` is the uuid that the session gets. -/
def create (store : SessionStore) (id : String) (now : Instant) : SessionStore :=
  { store with sessions := store.sessions.insert id now }

/-- Validate a session ID: whether it is valid and not expired. An expired session is removed. -/
def validate (store : SessionStore) (sessionId : String) (now : Instant) : Bool × SessionStore :=
  match store.sessions.lookup sessionId with
  | some createdAt =>
    if secsSince now createdAt < store.ttlSecs then (true, store)
    else (false, { store with sessions := store.sessions.erase sessionId })
  | none => (false, store)

/-- Invalidate (remove) a session. -/
def invalidate (store : SessionStore) (sessionId : String) : SessionStore :=
  { store with sessions := store.sessions.erase sessionId }

end SessionStore

/-! ## Requests and responses -/

/-- The headers of a request that the server reads: the first value of each. -/
structure Headers where
  host : Option Header.Value
  cookie : Option Header.Value
  xForwardedProto : Option Header.Value
  deriving DecidableEq

/-- A snapshot of the metrics. No code counts bytes, so these counters are left out. -/
structure MetricsSnapshot where
  uptimeSecs : ℕ
  totalRequests : UInt64
  activeConnections : UInt64
  totalConnections : UInt64
  failedAuth : UInt64
  rateLimited : UInt64
  deriving DecidableEq, Repr

/-- The body of a response, before it is written as JSON. -/
inductive Body where
  | empty
  /-- `LoginResponse`. -/
  | login (success : Bool) (message : String)
  /-- `AuthCheckResponse`. -/
  | authCheck (authenticated authRequired tlsEnabled : Bool)
  /-- The JSON of an error. -/
  | error (message : String)
  /-- `StatusResponse`, without the version. -/
  | status (status : String) (connectedClients : ℕ)
  | clients (clients : List ClientInfo)
  | metrics (snapshot : MetricsSnapshot)
  /-- A file of the embedded web UI. -/
  | file (path : String)
  /-- What the framework writes when it cannot read a request. -/
  | rejection (text : String)
  deriving DecidableEq, Repr

/-- A response of the dashboard. -/
structure DashboardResponse where
  status : ℕ
  setCookie : Option String
  body : Body
  deriving DecidableEq, Repr

/-- The state of the dashboard, without the registry and the metrics. -/
structure DashboardState where
  dashboardToken : String
  authEnabled : Bool
  tlsEnabled : Bool
  domain : String
  sessions : SessionStore
  caddyManager : Option CaddyManager
  /-- `Metrics::started_at`. -/
  startedAt : Instant

/-- The dashboard of a server. Authentication is enabled when there is a token
(`ServerConfig::dashboard_auth_enabled`). -/
def DashboardState.new (dashboardToken : String) (sessionTtlSecs : ℕ) (tlsEnabled : Bool)
    (domain : String) (caddyManager : Option CaddyManager) (startedAt : Instant) : DashboardState :=
  ⟨dashboardToken, !dashboardToken.isEmpty, tlsEnabled, domain, .new sessionTtlSecs, caddyManager,
    startedAt⟩

/-! ## Cookie helpers -/

/-- `COOKIE_NAME`. -/
def cookieName : String := "zo-session"

/-- The loop of `extract_session_id` over the parts of the cookie header. A part that starts with
the cookie's name and goes on without `=` ends it. -/
def sessionIdIn : List String → Option String
  | [] => none
  | part :: parts =>
    match Text.stripPrefix (Text.trim part) cookieName with
    | none => sessionIdIn parts
    | some value =>
      match Text.stripPrefix value "=" with
      | none => none
      | some value => if value.isEmpty then sessionIdIn parts else some value

/-- Extract session ID from Cookie header. -/
def extractSessionId (headers : Headers) : Option String := do
  let cookie ← headers.cookie
  let cookieHeader ← cookie.toStr
  sessionIdIn (Text.split cookieHeader ';')

/-- Build a Set-Cookie header value for a session. -/
def buildSessionCookie (sessionId : String) (maxAgeSecs : ℕ) (tlsEnabled : Bool) : String :=
  let cookie := cookieName ++ "=" ++ sessionId ++ "; Path=/; HttpOnly; SameSite=Strict; Max-Age=" ++
    toString maxAgeSecs
  if tlsEnabled then cookie ++ "; Secure" else cookie

/-- Build a Set-Cookie header to clear the session cookie. -/
def buildClearCookie : String := cookieName ++ "=; Path=/; HttpOnly; SameSite=Strict; Max-Age=0"

/-- Check if the request is authenticated: auth is disabled or the session is valid. -/
def isAuthenticated (state : DashboardState) (headers : Headers) (now : Instant) :
    Bool × DashboardState :=
  if !state.authEnabled then (true, state)
  else
    match extractSessionId headers with
    | some sessionId =>
      let (valid, sessions) := state.sessions.validate sessionId now
      (valid, { state with sessions })
    | none => (false, state)

/-! ## Auth API handlers -/

/-- Detect if TLS is enabled (natively or via reverse proxy). -/
def isTlsEnabled (state : DashboardState) (headers : Headers) : Bool :=
  if state.tlsEnabled then true
  else
    match headers.xForwardedProto.bind Header.Value.toStr with
    | some proto => Text.eqIgnoreAsciiCase (Text.trim proto) "https"
    | none => false

/-- `ServerConfig::validate_dashboard_token`, with the configured token. -/
def validateDashboardToken (expected token : String) : Bool :=
  if expected.isEmpty then true else expected == token

/-- `api_login` with the token of its payload. `newId` is the uuid of the session that it creates,
if it does. -/
def apiLogin (state : DashboardState) (headers : Headers) (token newId : String) (now : Instant) :
    DashboardResponse × DashboardState :=
  if !state.authEnabled then (⟨200, none, .login true "Authentication not required"⟩, state)
  else
    match isAuthenticated state headers now with
    | (true, state) => (⟨200, none, .login true "Already authenticated"⟩, state)
    | (false, state) =>
      if validateDashboardToken state.dashboardToken token then
        let cookie := buildSessionCookie newId state.sessions.ttlSecs (isTlsEnabled state headers)
        (⟨200, some cookie, .login true "Login successful"⟩,
          { state with sessions := state.sessions.create newId now })
      else (⟨401, none, .login false "Invalid admin token"⟩, state)

/-- `api_auth_check`. -/
def apiAuthCheck (state : DashboardState) (headers : Headers) (now : Instant) :
    DashboardResponse × DashboardState :=
  let (authenticated, state) := isAuthenticated state headers now
  (⟨200, none, .authCheck authenticated state.authEnabled (isTlsEnabled state headers)⟩, state)

/-- `api_logout`. -/
def apiLogout (state : DashboardState) (headers : Headers) : DashboardResponse × DashboardState :=
  let state := match extractSessionId headers with
    | some sessionId => { state with sessions := state.sessions.invalidate sessionId }
    | none => state
  (⟨200, some buildClearCookie, .login true "Logged out"⟩, state)

/-! ## Protected API handlers -/

/-- The response to a request that is not authenticated. -/
def authRequired : DashboardResponse := ⟨401, none, .error "Authentication required"⟩

/-- A handler that returns its data to authenticated requests. -/
def guarded (state : DashboardState) (headers : Headers) (now : Instant) (data : Body) :
    DashboardResponse × DashboardState :=
  match isAuthenticated state headers now with
  | (true, state) => (⟨200, none, data⟩, state)
  | (false, state) => (authRequired, state)

/-- `api_status`. -/
def apiStatus (server : ServerState) (state : DashboardState) (headers : Headers) (now : Instant) :
    DashboardResponse × DashboardState :=
  guarded state headers now (.status "running" server.registry.count)

/-- `api_clients`. -/
def apiClients (server : ServerState) (state : DashboardState) (headers : Headers)
    (now : Instant) : DashboardResponse × DashboardState :=
  guarded state headers now (.clients (server.registry.list now server.clientMetrics))

/-- `Metrics::snapshot`. -/
def Metrics.snapshot (metrics : Metrics) (startedAt now : Instant) : MetricsSnapshot :=
  ⟨secsSince now startedAt, metrics.totalRequests, metrics.activeConnections,
    metrics.totalConnections, metrics.failedAuth, metrics.rateLimited⟩

/-- `api_metrics`. -/
def apiMetrics (server : ServerState) (state : DashboardState) (headers : Headers)
    (now : Instant) : DashboardResponse × DashboardState :=
  guarded state headers now (.metrics (server.metrics.snapshot state.startedAt now))

/-- A part of the cookie header that carries another cookie is skipped, and the first session id
that is not empty is taken. -/
example : sessionIdIn (Text.split "theme=dark; zo-session=; zo-session=a1b2; x=y" ';') =
    some "a1b2" := by decide

/-- A cookie whose name goes on after the session cookie's name hides the ones behind it. -/
example : sessionIdIn (Text.split "zo-session-old=1; zo-session=a1b2" ';') = none := by decide

/-! ## What the handlers do to the sessions -/

/-- A session that is found and not expired is the only kind that is valid. -/
theorem SessionStore.validate_eq_true_iff {store : SessionStore} {id : String} {now : Instant} :
    (store.validate id now).1 = true ↔
      ∃ createdAt, store.sessions.lookup id = some createdAt ∧
        secsSince now createdAt < store.ttlSecs := by
  unfold validate
  cases hlookup : store.sessions.lookup id with
  | none => simp
  | some createdAt =>
    dsimp only
    split_ifs with hlt
    · exact ⟨fun _ => ⟨createdAt, rfl, hlt⟩, fun _ => rfl⟩
    · refine ⟨nofun, ?_⟩
      rintro ⟨createdAt', heq, hlt'⟩
      rw [Option.some.inj heq] at hlt
      exact absurd hlt' hlt

/-- Validation leaves the store as it is, or it removes the session that it is asked about, when
this one has expired. -/
theorem SessionStore.validate_cases (store : SessionStore) (sessionId : String) (now : Instant) :
    (store.validate sessionId now).2 = store ∨
      ∃ createdAt, store.sessions.lookup sessionId = some createdAt ∧
        ¬ secsSince now createdAt < store.ttlSecs ∧
        (store.validate sessionId now).2 = store.invalidate sessionId := by
  unfold validate
  cases hlookup : store.sessions.lookup sessionId with
  | none => exact .inl rfl
  | some createdAt =>
    dsimp only
    split_ifs with hlt
    · exact .inl rfl
    · exact .inr ⟨createdAt, rfl, hlt, rfl⟩

/-- The store has lost no session but expired ones, and gained none. -/
structure SessionStore.Prunes (store store' : SessionStore) (now : Instant) : Prop where
  ttlSecs : store'.ttlSecs = store.ttlSecs
  sound : ∀ id createdAt, store'.sessions.lookup id = some createdAt →
    store.sessions.lookup id = some createdAt
  complete : ∀ id createdAt, store.sessions.lookup id = some createdAt →
    secsSince now createdAt < store.ttlSecs → store'.sessions.lookup id = some createdAt

/-- Nothing is lost from a store that does not change. -/
theorem SessionStore.Prunes.refl (store : SessionStore) (now : Instant) :
    store.Prunes store now :=
  ⟨rfl, fun _ _ h => h, fun _ _ h _ => h⟩

/-- Validation prunes the store. -/
theorem SessionStore.prunes_validate (store : SessionStore) (sessionId : String) (now : Instant) :
    store.Prunes (store.validate sessionId now).2 now := by
  rcases store.validate_cases sessionId now with hsame | ⟨createdAt, hlookup, hexpired, herase⟩
  · rw [hsame]
    exact .refl store now
  · rw [herase]
    refine ⟨rfl, fun id t h => ?_, fun id t h hlive => ?_⟩
    · unfold invalidate at h
      rcases eq_or_ne id sessionId with rfl | hne
      · rw [AList.lookup_erase] at h
        cases h
      · rwa [AList.lookup_erase_ne hne] at h
    · have hne : id ≠ sessionId := by
        rintro rfl
        rw [hlookup] at h
        rw [Option.some.inj h] at hexpired
        exact hexpired hlive
      unfold invalidate
      rwa [AList.lookup_erase_ne hne]

/-- With authentication enabled, a request is authenticated by a valid session. -/
theorem isAuthenticated_eq_true_iff {state : DashboardState} {headers : Headers} {now : Instant}
    (henabled : state.authEnabled = true) :
    (isAuthenticated state headers now).1 = true ↔
      ∃ id, extractSessionId headers = some id ∧ (state.sessions.validate id now).1 = true := by
  unfold isAuthenticated
  rw [henabled]
  cases extractSessionId headers with
  | none => simp
  | some id => simp

/-- The check of a request prunes the sessions, and changes nothing else. -/
theorem isAuthenticated_state (state : DashboardState) (headers : Headers) (now : Instant) :
    ∃ sessions, (isAuthenticated state headers now).2 = { state with sessions } ∧
      state.sessions.Prunes sessions now := by
  unfold isAuthenticated
  split
  · exact ⟨_, rfl, .refl _ now⟩
  · split
    · rename_i id hid
      exact ⟨_, rfl, state.sessions.prunes_validate id now⟩
    · exact ⟨_, rfl, .refl _ now⟩

/-- A protected handler returns its data exactly to the authenticated requests. -/
theorem guarded_eq_data_iff {state : DashboardState} {headers : Headers} {now : Instant}
    {data : Body} :
    (guarded state headers now data).1 = ⟨200, none, data⟩ ↔
      (isAuthenticated state headers now).1 = true := by
  unfold guarded
  split
  · rename_i state' hauth
    rw [hauth]
    exact iff_of_true rfl rfl
  · rename_i state' hauth
    rw [hauth]
    refine iff_of_false (fun h => ?_) nofun
    have hstatus : 401 = 200 := congrArg DashboardResponse.status h
    omega

/-- A protected handler leaves the state that the check leaves. -/
theorem guarded_state (state : DashboardState) (headers : Headers) (now : Instant) (data : Body) :
    (guarded state headers now data).2 = (isAuthenticated state headers now).2 := by
  unfold guarded
  split
  · rename_i state' hauth
    rw [hauth]
  · rename_i state' hauth
    rw [hauth]

/-- A login sets a cookie for its new session when the token is valid and the request has no valid
session, and none otherwise. -/
theorem apiLogin_setCookie (state : DashboardState) (headers : Headers) (token newId : String)
    (now : Instant) : (apiLogin state headers token newId now).1.setCookie =
      if (isAuthenticated state headers now).1 = false ∧
          validateDashboardToken state.dashboardToken token = true then
        some (buildSessionCookie newId state.sessions.ttlSecs (isTlsEnabled state headers))
      else none := by
  obtain ⟨sessions, hstate, hprunes⟩ := isAuthenticated_state state headers now
  unfold apiLogin
  split
  · rename_i hdisabled
    have hauth : (isAuthenticated state headers now).1 = true := by
      unfold isAuthenticated
      rw [if_pos hdisabled]
    rw [hauth]
    exact (if_neg fun h => absurd h.1 (by decide)).symm
  · split
    · rename_i state' hauth
      rw [hauth]
      exact (if_neg fun h => Bool.noConfusion h.1).symm
    · rename_i state' hauth
      rw [hauth] at hstate ⊢
      dsimp only at hstate
      subst hstate
      rw [← hprunes.ttlSecs]
      dsimp only
      split_ifs with hvalid hboth hboth
      · rfl
      · exact absurd ⟨rfl, hvalid⟩ hboth
      · exact absurd hboth.2 hvalid
      · rfl

/-- A login creates a session for a token that is valid, and none otherwise. It prunes the sessions
in any case. -/
theorem apiLogin_cases {state : DashboardState} (henabled : state.authEnabled = true)
    (headers : Headers) (token newId : String) (now : Instant) :
    ∃ sessions, state.sessions.Prunes sessions now ∧
      ((apiLogin state headers token newId now).1.setCookie = none ∧
          (apiLogin state headers token newId now).2 = { state with sessions } ∨
        (apiLogin state headers token newId now).1.setCookie.isSome = true ∧
          validateDashboardToken state.dashboardToken token = true ∧
          (apiLogin state headers token newId now).2 =
            { state with sessions := sessions.create newId now }) := by
  obtain ⟨sessions, hstate, hprunes⟩ := isAuthenticated_state state headers now
  refine ⟨sessions, hprunes, ?_⟩
  unfold apiLogin
  split
  · rename_i hdisabled
    rw [henabled] at hdisabled
    cases hdisabled
  · split
    · rename_i state' hauth
      rw [hauth] at hstate
      exact .inl ⟨rfl, hstate⟩
    · rename_i state' hauth
      rw [hauth] at hstate
      dsimp only at hstate
      subst hstate
      dsimp only
      split_ifs with hvalid
      · exact .inr ⟨rfl, hvalid, rfl⟩
      · exact .inl ⟨rfl, rfl⟩

end ZoTunnel
