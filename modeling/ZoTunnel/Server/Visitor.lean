import ZoTunnel.Server.Dashboard
import ZoTunnel.Server.Routing

/-!
# What a visitor learns about the tunnels

The answer of `serve_http` to a public request, through the dashboard's router (`dashboard.rs`) or
through the exits of `handle_proxy_request` that come before it opens a stream (`proxy.rs`). What
the framework makes of a query or a body is part of the request.

Two registries that agree on the client ids which a request names should be told apart by nobody who
is not logged in. `visitor_learns_nothing_iff` says for which requests that is so: for all but those
whose host names neither the dashboard nor a client, which the proxy answers with the list of the
connected clients.
-/

namespace ZoTunnel

/-- The method of a request. -/
inductive Method where
  | get
  | head
  | post
  | other (name : String)
  deriving DecidableEq, Repr

/-- A public request. -/
structure PublicRequest where
  method : Method
  path : String
  headers : Headers
  /-- The `domain` of the query, or the framework's response to a query without one. -/
  tlsQuery : Except DashboardResponse String
  /-- The `token` of the JSON body, or the framework's response to another body. -/
  loginPayload : Except DashboardResponse String

/-- The request as the proxy reads it. -/
def PublicRequest.toHttp (req : PublicRequest) : HttpRequest := .ofHost req.headers.host req.path

/-- The response to a method that a path does not have. -/
def methodNotAllowed : DashboardResponse := ⟨405, none, .empty⟩

/-- A route for GET, which also answers HEAD, with no body. -/
def onGet (req : PublicRequest) (response : DashboardResponse) : DashboardResponse :=
  match req.method with
  | .get => response
  | .head => { response with body := .empty }
  | _ => methodNotAllowed

/-- A route for POST. -/
def onPost (req : PublicRequest) (response : DashboardResponse) : DashboardResponse :=
  match req.method with
  | .post => response
  | _ => methodNotAllowed

/-- The dashboard's router. `newId` is the uuid of a session that a login creates, and `get` how the
fallback of the TLS check answers. -/
def dashboardRouter (server : ServerState) (state : DashboardState) (req : PublicRequest)
    (newId : String) (get : String → Option UInt16) (now : Instant) : DashboardResponse :=
  match req.path with
  | "/" => onGet req ⟨200, none, .file "index.html"⟩
  | "/style.css" => onGet req ⟨200, none, .file "style.css"⟩
  | "/app.js" => onGet req ⟨200, none, .file "app.js"⟩
  | "/api/login" => onPost req <|
    match req.loginPayload with
    | .error rejection => rejection
    | .ok token => (apiLogin state req.headers token newId now).1
  | "/api/auth/check" => onGet req (apiAuthCheck state req.headers now).1
  | "/api/tls-check" => onGet req <|
    match req.tlsQuery with
    | .error rejection => rejection
    | .ok domain =>
      ⟨(apiTlsCheck state.domain server.registry state.caddyManager get domain).toNat, none, .empty⟩
  | "/api/status" => onGet req (apiStatus server state req.headers now).1
  | "/api/clients" => onGet req (apiClients server state req.headers now).1
  | "/api/metrics" => onGet req (apiMetrics server state req.headers now).1
  | "/api/logout" => onPost req (apiLogout state req.headers).1
  | _ => ⟨404, none, .empty⟩

/-- The answer to a public request. -/
inductive Answer where
  | dashboard (response : DashboardResponse)
  /-- The proxy answers without a stream to a client. -/
  | proxy (response : Response)
  /-- The request goes to the tunnel of a client. -/
  | tunnel
  deriving DecidableEq, Repr

/-- The request `rid` after its steps that need no client: it arrives, and asks the limiter and the
registry. A step that does not apply is left out. -/
def proxied (config : ServerConfig) (server : ServerState) (rid : ℕ) (req : HttpRequest)
    (now : Instant) : Request :=
  let next (s : ServerState) (l : RequestStep) := (handleProxyRequest config s rid l).getD s
  let arrived := next (server.setRequest rid .idle) (.arrive req now)
  (next (next arrived (.limit now)) .lookup).requests rid

/-- What `serve_http` answers to a public request. -/
def serve (config : ServerConfig) (server : ServerState) (state : DashboardState) (rid : ℕ)
    (req : PublicRequest) (newId : String) (get : String → Option UInt16) (now : Instant) :
    Answer :=
  match serveHttp req.toHttp config.domain with
  | .dashboard => .dashboard (dashboardRouter server state req newId get now)
  | .proxy =>
    match proxied config server rid req.toHttp now with
    | .finished response => .proxy response
    | _ => .tunnel

/-- The client ids that a request names, by its host or by the query of the TLS check. -/
def Names (config : ServerConfig) (state : DashboardState) (req : PublicRequest) (id : String) :
    Prop :=
  (∃ rest, extractRouting req.toHttp config.domain = some (id, rest)) ∨
    req.path = tlsCheckPath ∧ req.tlsQuery.toOption = some (id ++ "." ++ state.domain)

/-- A request is addressed to the dashboard or to a client. -/
def Addressed (config : ServerConfig) (req : PublicRequest) : Prop :=
  serveHttp req.toHttp config.domain = .dashboard ∨
    ∃ id rest, extractRouting req.toHttp config.domain = some (id, rest)

variable {config : ServerConfig} {server : ServerState} {state : DashboardState}
  {req : PublicRequest} {now : Instant}

/-! ## The proxy -/

/-- A request that names no client is answered with the list of the clients. -/
theorem proxied_unrouted {rid : ℕ} {req : HttpRequest}
    (h : extractRouting req config.domain = none) :
    proxied config server rid req now = .finished
      (noRouteResponse (server.registry.list now server.clientMetrics) config.domain) := by
  simp [proxied, handleProxyRequest, ServerState.setRequest, h]

/-- A request for a client that is not registered is answered by the limiter or with an error. -/
theorem proxied_unregistered {rid : ℕ} {req : HttpRequest} {id rest : String}
    (h : extractRouting req config.domain = some (id, rest))
    (hget : server.registry.get id = none) :
    proxied config server rid req now = .finished
      (if (server.limiter.check id now).1 then
        errorResponse 502 s!"Tunnel '{id}' not found or offline"
      else errorResponse 429 "Rate limit exceeded") := by
  cases hcheck : server.limiter.check id now with
  | mk admitted limiter =>
    cases admitted <;> simp [proxied, handleProxyRequest, ServerState.setRequest, h, hget, hcheck]

/-! ## The dashboard -/

/-- A protected handler answers a visitor who is not logged in with an error. -/
theorem guarded_visitor (hvisitor : (isAuthenticated state req.headers now).1 = false)
    (data : Body) : (guarded state req.headers now data).1 = authRequired := by
  unfold guarded
  split
  · rename_i state' hauth
    rw [hauth] at hvisitor
    cases hvisitor
  · rfl

/-- The TLS check looks up only the id in front of the base domain. -/
theorem apiTlsCheck_congr (baseDomain domain : String) (registry registry' : Registry)
    (mgr : Option CaddyManager) (get : String → Option UInt16)
    (h : ∀ id, domain = id ++ "." ++ baseDomain → registry.get id = registry'.get id) :
    apiTlsCheck baseDomain registry mgr get domain =
      apiTlsCheck baseDomain registry' mgr get domain := by
  unfold apiTlsCheck
  cases hstrip : Text.stripSuffix domain ("." ++ baseDomain) with
  | none => rfl
  | some sub =>
    have hdomain := Text.stripSuffix_eq_some_iff.mp hstrip
    rw [← String.append_assoc] at hdomain
    dsimp only
    rw [h sub hdomain]

/-- The dashboard answers a visitor who is not logged in without a look at any client but the one
that the TLS check names. -/
theorem dashboardRouter_visitor (hvisitor : (isAuthenticated state req.headers now).1 = false)
    {registry registry' : Registry} (newId : String) (get : String → Option UInt16)
    (h : ∀ id, req.path = tlsCheckPath →
      req.tlsQuery.toOption = some (id ++ "." ++ state.domain) →
        registry.get id = registry'.get id) :
    dashboardRouter { server with registry } state req newId get now =
      dashboardRouter { server with registry := registry' } state req newId get now := by
  unfold dashboardRouter
  split
  case h_6 hpath =>
    cases hquery : req.tlsQuery with
    | error rejection => rfl
    | ok domain =>
      have hcheck := apiTlsCheck_congr state.domain domain registry registry' state.caddyManager get
        fun id hdomain => h id hpath (by rw [hquery, hdomain]; rfl)
      dsimp only
      rw [hcheck]
  case h_7 => simp only [apiStatus, guarded_visitor hvisitor]
  case h_8 => simp only [apiClients, guarded_visitor hvisitor]
  case h_9 => simp only [apiMetrics, guarded_visitor hvisitor]
  all_goals rfl

/-! ## The visitor -/

/-- No two registries that hold none of the client ids which a request names are told apart by its
answer, exactly if the request is addressed to the dashboard or to a client. -/
theorem visitor_learns_nothing_iff (config : ServerConfig) (server : ServerState)
    (state : DashboardState) (rid : ℕ) (req : PublicRequest) (newId : String)
    (get : String → Option UInt16) (now : Instant)
    (hvisitor : (isAuthenticated state req.headers now).1 = false) :
    (∀ registry registry' : Registry,
      (∀ id, Names config state req id → registry.get id = none ∧ registry'.get id = none) →
        serve config { server with registry } state rid req newId get now =
          serve config { server with registry := registry' } state rid req newId get now) ↔
      Addressed config req := by
  constructor
  · intro h
    by_contra haddressed
    unfold Addressed at haddressed
    push Not at haddressed
    obtain ⟨hdashboard, hunrouted⟩ := haddressed
    have hproxy : serveHttp req.toHttp config.domain = .proxy := by
      cases hserved : serveHttp req.toHttp config.domain with
      | dashboard => exact absurd hserved hdashboard
      | proxy => rfl
    have hnone : extractRouting req.toHttp config.domain = none := by
      cases hroute : extractRouting req.toHttp config.domain with
      | none => rfl
      | some p => exact absurd hroute (hunrouted p.1 p.2)
    -- With no client the answer is 503, and with one it is 404.
    let registry : Registry := .insert .new ⟨"app", ⟨0⟩, 0, 0, true⟩ (by decide)
    have hsame := h .new registry fun id hnames => by
      rcases hnames with ⟨rest, hroute⟩ | ⟨hpath, -⟩
      · rw [hnone] at hroute
        cases hroute
      · exact absurd hpath (serveHttp_eq_proxy_iff.mp hproxy).1
    unfold serve at hsame
    rw [hproxy] at hsame
    dsimp only at hsame
    rw [proxied_unrouted hnone, proxied_unrouted hnone] at hsame
    have hstatus : 503 = 404 := congrArg Response.status (Answer.proxy.inj hsame)
    omega
  · intro haddressed registry registry' hnames
    unfold serve
    cases hserved : serveHttp req.toHttp config.domain with
    | dashboard =>
      dsimp only
      rw [dashboardRouter_visitor hvisitor newId get fun id hpath hquery => ?_]
      obtain ⟨hget, hget'⟩ := hnames id (.inr ⟨hpath, hquery⟩)
      rw [hget, hget']
    | proxy =>
      rcases haddressed with hdashboard | ⟨id, rest, hroute⟩
      · rw [hserved] at hdashboard
        cases hdashboard
      · obtain ⟨hget, hget'⟩ := hnames id (.inl ⟨rest, hroute⟩)
        dsimp only
        rw [proxied_unregistered hroute hget, proxied_unregistered hroute hget']

/-- A visitor's request with a host and a path. -/
def visit (host : Header.Value) (path : String) : PublicRequest :=
  ⟨.get, path, ⟨some host, none, none⟩, .error ⟨400, none, .empty⟩, .error ⟨415, none, .empty⟩⟩

/-- The host of a tunnel that is not there. -/
def nobodyHost : Header.Value :=
  .ofText "nobody.tunnel.example.com" (by decide) (by decide) (by decide)

/-- A host outside the domain. -/
def otherHost : Header.Value :=
  .ofText "example.org" (by decide) (by decide) (by decide)

/-- A registry with the client `app`. -/
def appRegistry : Registry := .insert .new ⟨"app", ⟨0⟩, 0, 0, true⟩ (by decide)

/-- A visitor of a tunnel that is not there does not learn whether `app` is connected. -/
theorem visitor_learns_nothing_nobody :
    serve ⟨6210, "tunnel.example.com", ⟨["t0k"]⟩⟩ { ServerState.new 100 with registry := .new }
        (.new "s3cret" 3600 false "tunnel.example.com" none 0) 0 (visit nobodyHost "/") "a1"
        (fun _ => none) 0 =
      serve ⟨6210, "tunnel.example.com", ⟨["t0k"]⟩⟩
        { ServerState.new 100 with registry := appRegistry }
        (.new "s3cret" 3600 false "tunnel.example.com" none 0) 0 (visit nobodyHost "/") "a1"
        (fun _ => none) 0 := by
  have hroute : extractRouting (visit nobodyHost "/").toHttp "tunnel.example.com" =
      some ("nobody", "/") := by decide
  have hsame := (visitor_learns_nothing_iff ⟨6210, "tunnel.example.com", ⟨["t0k"]⟩⟩ (.new 100)
    (.new "s3cret" 3600 false "tunnel.example.com" none 0) 0 (visit nobodyHost "/") "a1"
    (fun _ => none) 0 (by decide)).mpr (.inr ⟨"nobody", "/", hroute⟩)
  refine hsame .new appRegistry fun id hnames => ?_
  rcases hnames with ⟨rest, hnamed⟩ | ⟨hpath, -⟩
  · obtain ⟨rfl, -⟩ := Prod.mk.inj (Option.some.inj (hroute.symm.trans hnamed))
    decide
  · exact absurd hpath (by decide)

/-- A request whose host names nothing tells whether a client is connected, and which. -/
theorem visitor_reads_client_list :
    ¬ ∀ (config : ServerConfig) (server : ServerState) (state : DashboardState) (rid : ℕ)
      (req : PublicRequest) (newId : String) (get : String → Option UInt16) (now : Instant),
      (isAuthenticated state req.headers now).1 = false → ∀ registry registry' : Registry,
        (∀ id, Names config state req id → registry.get id = none ∧ registry'.get id = none) →
          serve config { server with registry } state rid req newId get now =
            serve config { server with registry := registry' } state rid req newId get now := by
  intro h
  have hsame := h ⟨6210, "tunnel.example.com", ⟨["t0k"]⟩⟩ (.new 100)
    (.new "s3cret" 3600 false "tunnel.example.com" none 0) 0 (visit otherHost "/") "a1"
    (fun _ => none) 0 (by decide) .new appRegistry fun id hnames => by
      rcases hnames with ⟨rest, hroute⟩ | ⟨hpath, -⟩
      · have hnone : extractRouting (visit otherHost "/").toHttp "tunnel.example.com" = none := by
          decide
        exact absurd (hroute.symm.trans hnone) nofun
      · exact absurd hpath (by decide)
  exact absurd hsame (by decide)

end ZoTunnel
