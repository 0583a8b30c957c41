import Mathlib.Logic.Function.Basic
import ZoTunnel.Lib.Run
import ZoTunnel.Protocol.Frame
import ZoTunnel.Server.Proxy

/-!
# Client sessions and proxy requests

The server as a transition system: any number of `handle_client` tasks (`server.rs`), one for each
control connection, and any number of `handle_proxy_request` tasks (`proxy.rs`), beside each other
on one registry. A label names the task and the step that it takes next, so a list of labels is an
interleaving.

A session goes through its phases in the order of `handle_client`: it reads the first frame,
validates the token, writes the `AuthRes`, spawns the yamux driver, registers, waits for the driver
to end, and unregisters. The bytes of the peer are arbitrary, and so is whether a write to it
succeeds. `HandleClient` states the steps as rules, one for each exit of each step, and
`handleClient_cases` says that the function takes no others; `handleProxyRequest_cases` does the
same for what a request does to the parts that the sessions share with it.
-/

namespace ZoTunnel

/-- How a session ended. -/
inductive Outcome where
  /-- The client did not send an `AuthReq` within 10 s. -/
  | authTimeout
  /-- The first frame could not be read. -/
  | readError
  /-- The first frame was no `AuthReq`. -/
  | notAuthReq
  /-- The `AuthRes` could not be written. -/
  | writeError
  /-- The token was rejected, and the client was told so. -/
  | authFailed
  /-- `Registry::register` returned an error. -/
  | refused
  /-- The driver ended, and the session unregistered. -/
  | unregistered
  deriving DecidableEq, Repr

/-- Where a session stands in `handle_client`, with the variables that are in scope there. -/
inductive Phase where
  /-- There is no connection under this number yet. -/
  | idle
  | reading
  | validating (auth : AuthReq)
  | rejecting (auth : AuthReq)
  | accepting (auth : AuthReq)
  | spawning (clientId : String) (supportsHeartbeat : Bool)
  | registering (clientId : String) (supportsHeartbeat : Bool) (handle : YamuxHandle)
  | serving (clientId : String) (handle : YamuxHandle)
  | closed (outcome : Outcome)
  deriving DecidableEq, Repr

/-- A control connection and the task that handles it. -/
structure Session where
  /-- The bytes that the peer sends. -/
  peer : List UInt8
  phase : Phase
  /-- The messages that the server has written to the connection. -/
  sent : List Message
  /-- Whether the yamux driver task of the session is running. -/
  driver : Bool
  deriving DecidableEq

/-- A connection that has not been accepted. -/
def Session.new : Session := ⟨[], .idle, [], false⟩

/-- Where a request stands in `handle_proxy_request`, with the client entry that it holds. -/
inductive Request where
  /-- There is no request under this number yet. -/
  | idle
  /-- The host names a client. -/
  | routed (clientId : String)
  /-- The rate limiter admitted the request. -/
  | admitted (clientId : String)
  /-- Waits for `open_stream`. -/
  | opening (clientId : String) (client : ClientEntry)
  /-- Writes the stream type marker. -/
  | marking (clientId : String) (client : ClientEntry)
  /-- Waits for the HTTP/1.1 handshake over the stream. -/
  | handshaking (clientId : String) (client : ClientEntry)
  /-- Builds the forwarded request. -/
  | forwarding (clientId : String) (client : ClientEntry)
  /-- Waits for the response. -/
  | sending (clientId : String) (client : ClientEntry)
  | finished (response : Response)
  /-- The public connection closed, and hyper dropped the future at an await point. -/
  | dropped
  deriving DecidableEq, Repr

/-- The client id and the entry that a request has looked up. -/
def Request.client? : Request → Option (String × ClientEntry)
  | .opening clientId client | .marking clientId client | .handshaking clientId client
  | .forwarding clientId client | .sending clientId client => some (clientId, client)
  | _ => none

/-- The state of the server. -/
structure ServerState where
  registry : Registry
  metrics : Metrics
  limiter : RateLimiter
  /-- The counters of the client entries, by address. -/
  clientMetrics : ℕ → ClientMetrics
  sessions : ℕ → Session
  requests : ℕ → Request
  /-- The streams opened so far: the client id of the request, and the handle used. -/
  opened : List (String × YamuxHandle)

/-- The server at its start, with a rate limit. -/
def ServerState.new (maxPerSecond : UInt32) : ServerState :=
  ⟨.new, .new, .new maxPerSecond, fun _ => .new, fun _ => .new, fun _ => .idle, []⟩

/-- The state with one session replaced. -/
def ServerState.setSession (s : ServerState) (sid : ℕ) (session : Session) : ServerState :=
  { s with sessions := Function.update s.sessions sid session }

/-- The state with one request replaced. -/
def ServerState.setRequest (s : ServerState) (rid : ℕ) (request : Request) : ServerState :=
  { s with requests := Function.update s.requests rid request }

/-- The request after its phase is set. -/
@[simp]
theorem ServerState.setRequest_requests (s : ServerState) (rid : ℕ) (request : Request) :
    (s.setRequest rid request).requests rid = request := by
  unfold ServerState.setRequest
  dsimp only
  rw [Function.update_self]

/-! ## `handle_client` -/

/-- A step of a session, with what the environment decides in it. -/
inductive SessionStep where
  /-- `accept_clients` accepts a connection from a peer that will send these bytes. -/
  | accept (peer : List UInt8)
  | authTimeout
  | readAuth
  | validate
  /-- The `AuthRes` is written, or the write fails. -/
  | writeAuthRes (ok : Bool)
  | spawnDriver
  | register (now : Instant)
  /-- The yamux driver task ends. -/
  | driverEnd
  | unregister
  deriving DecidableEq, Repr

/-- The response to a token that is not valid. -/
def rejection : AuthRes := ⟨false, "Invalid token", none, none⟩

/-- The response to a client whose token is valid. -/
def welcome (config : ServerConfig) (clientId : String) : AuthRes :=
  ⟨true, "OK — " ++ clientId ++ "." ++ config.domain, some config.publicPort, some clientId⟩

/-- One step of `handle_client` for the session `sid`. -/
def handleClient (config : ServerConfig) (S : Serde) (s : ServerState) (sid : ℕ)
    (l : SessionStep) : Option ServerState :=
  let session := s.sessions sid
  match l, session.phase with
  | .accept peer, .idle =>
    some { s.setSession sid { session with peer, phase := .reading } with
      metrics := { s.metrics with totalConnections := s.metrics.totalConnections + 1 } }
  | .authTimeout, .reading =>
    some (s.setSession sid { session with phase := .closed .authTimeout })
  | .readAuth, .reading =>
    match readMessage S session.peer with
    | .error _ => some (s.setSession sid { session with phase := .closed .readError })
    | .ok (.authReq auth, _) => some (s.setSession sid { session with phase := .validating auth })
    | .ok _ => some (s.setSession sid { session with phase := .closed .notAuthReq })
  | .validate, .validating auth =>
    if config.validateToken auth.token then
      some (s.setSession sid { session with phase := .accepting auth })
    else some (s.setSession sid { session with phase := .rejecting auth })
  | .writeAuthRes false, .rejecting _ | .writeAuthRes false, .accepting _ =>
    some (s.setSession sid { session with phase := .closed .writeError })
  | .writeAuthRes true, .rejecting _ =>
    some { s.setSession sid { session with
        sent := session.sent ++ [.authRes rejection], phase := .closed .authFailed } with
      metrics := { s.metrics with failedAuth := s.metrics.failedAuth + 1 } }
  | .writeAuthRes true, .accepting auth =>
    some (s.setSession sid { session with
      sent := session.sent ++ [.authRes (welcome config auth.clientId)]
      phase := .spawning auth.clientId auth.supportsHeartbeat })
  | .spawnDriver, .spawning clientId supportsHeartbeat =>
    some (s.setSession sid { session with
      driver := true, phase := .registering clientId supportsHeartbeat ⟨sid⟩ })
  | .register now, .registering clientId supportsHeartbeat handle =>
    match s.registry.register clientId handle supportsHeartbeat now sid with
    | (.ok _, registry) =>
      some { s.setSession sid { session with phase := .serving clientId handle } with
        registry, clientMetrics := Function.update s.clientMetrics sid .new }
    | (.error _, _) =>
      -- `driver_task.abort()`
      some (s.setSession sid { session with driver := false, phase := .closed .refused })
  | .driverEnd, _ =>
    if session.driver then some (s.setSession sid { session with driver := false }) else none
  | .unregister, .serving clientId _ =>
    -- `driver_task.await` returns when the driver has ended.
    if session.driver then none
    else
      some { s.setSession sid { session with phase := .closed .unregistered } with
        registry := s.registry.unregister clientId }
  | _, _ => none

/-- The steps of `handle_client` as rules: the session and the registry before a step, and after
it. -/
inductive HandleClient (config : ServerConfig) (S : Serde) (sid : ℕ) :
    Session → Registry → SessionStep → Session → Registry → Prop where
  | accept {session registry} (peer : List UInt8) (h : session.phase = .idle) :
    HandleClient config S sid session registry (.accept peer)
      { session with peer, phase := .reading } registry
  | authTimeout {session registry} (h : session.phase = .reading) :
    HandleClient config S sid session registry .authTimeout
      { session with phase := .closed .authTimeout } registry
  | readError {session registry} (h : session.phase = .reading) (outcome : Outcome)
      (houtcome : outcome = .readError ∨ outcome = .notAuthReq) :
    HandleClient config S sid session registry .readAuth
      { session with phase := .closed outcome } registry
  | readAuth {session registry} (h : session.phase = .reading) (auth : AuthReq)
      (rest : List UInt8) (hread : readMessage S session.peer = .ok (.authReq auth, rest)) :
    HandleClient config S sid session registry .readAuth
      { session with phase := .validating auth } registry
  | valid {session registry} (auth : AuthReq) (h : session.phase = .validating auth)
      (hvalid : config.validateToken auth.token = true) :
    HandleClient config S sid session registry .validate
      { session with phase := .accepting auth } registry
  | invalid {session registry} (auth : AuthReq) (h : session.phase = .validating auth)
      (hinvalid : config.validateToken auth.token = false) :
    HandleClient config S sid session registry .validate
      { session with phase := .rejecting auth } registry
  | writeError {session registry} (auth : AuthReq)
      (h : session.phase = .rejecting auth ∨ session.phase = .accepting auth) :
    HandleClient config S sid session registry (.writeAuthRes false)
      { session with phase := .closed .writeError } registry
  | authFailed {session registry} (auth : AuthReq) (h : session.phase = .rejecting auth) :
    HandleClient config S sid session registry (.writeAuthRes true)
      { session with sent := session.sent ++ [.authRes rejection], phase := .closed .authFailed }
      registry
  | welcomed {session registry} (auth : AuthReq) (h : session.phase = .accepting auth) :
    HandleClient config S sid session registry (.writeAuthRes true)
      { session with
        sent := session.sent ++ [.authRes (welcome config auth.clientId)]
        phase := .spawning auth.clientId auth.supportsHeartbeat } registry
  | spawned {session registry} (clientId : String) (supportsHeartbeat : Bool)
      (h : session.phase = .spawning clientId supportsHeartbeat) :
    HandleClient config S sid session registry .spawnDriver
      { session with driver := true, phase := .registering clientId supportsHeartbeat ⟨sid⟩ }
      registry
  | registered {session registry} (clientId : String) (supportsHeartbeat : Bool)
      (handle : YamuxHandle) (now : Instant)
      (h : session.phase = .registering clientId supportsHeartbeat handle)
      (hreserved : clientId ∉ reservedSubdomains) (hvacant : registry.get clientId = none) :
    HandleClient config S sid session registry (.register now)
      { session with phase := .serving clientId handle }
      (registry.insert ⟨clientId, handle, now, sid, supportsHeartbeat⟩ hreserved)
  | refused {session registry} (clientId : String) (supportsHeartbeat : Bool)
      (handle : YamuxHandle) (now : Instant)
      (h : session.phase = .registering clientId supportsHeartbeat handle)
      (hrefused : ¬ (clientId ∉ reservedSubdomains ∧ registry.get clientId = none)) :
    HandleClient config S sid session registry (.register now)
      { session with driver := false, phase := .closed .refused } registry
  | driverEnded {session registry} (h : session.driver = true) :
    HandleClient config S sid session registry .driverEnd { session with driver := false } registry
  | unregistered {session registry} (clientId : String) (handle : YamuxHandle)
      (h : session.phase = .serving clientId handle) (hdriver : session.driver = false) :
    HandleClient config S sid session registry .unregister
      { session with phase := .closed .unregistered } (registry.unregister clientId)

/-- A step of a session changes its own session and the registry by one of the rules, and no other
session, no request, and no opened stream. -/
theorem handleClient_cases {config : ServerConfig} {S : Serde} {s s' : ServerState} {sid : ℕ}
    {l : SessionStep} (h : handleClient config S s sid l = some s') :
    s'.requests = s.requests ∧ s'.opened = s.opened ∧
      ∃ session', s'.sessions = Function.update s.sessions sid session' ∧
        HandleClient config S sid (s.sessions sid) s.registry l session' s'.registry := by
  unfold handleClient at h
  dsimp only at h
  split at h
  · rename_i peer hphase
    obtain rfl := Option.some.inj h
    exact ⟨rfl, rfl, _, rfl, .accept peer hphase⟩
  · rename_i hphase
    obtain rfl := Option.some.inj h
    exact ⟨rfl, rfl, _, rfl, .authTimeout hphase⟩
  · rename_i hphase
    split at h
    · obtain rfl := Option.some.inj h
      exact ⟨rfl, rfl, _, rfl, .readError hphase _ (.inl rfl)⟩
    · rename_i auth rest hread
      obtain rfl := Option.some.inj h
      exact ⟨rfl, rfl, _, rfl, .readAuth hphase auth rest hread⟩
    · obtain rfl := Option.some.inj h
      exact ⟨rfl, rfl, _, rfl, .readError hphase _ (.inr rfl)⟩
  · rename_i auth hphase
    split_ifs at h with hvalid
    · obtain rfl := Option.some.inj h
      exact ⟨rfl, rfl, _, rfl, .valid auth hphase hvalid⟩
    · obtain rfl := Option.some.inj h
      exact ⟨rfl, rfl, _, rfl, .invalid auth hphase (by simpa using hvalid)⟩
  · rename_i auth hphase
    obtain rfl := Option.some.inj h
    exact ⟨rfl, rfl, _, rfl, .writeError auth (.inl hphase)⟩
  · rename_i auth hphase
    obtain rfl := Option.some.inj h
    exact ⟨rfl, rfl, _, rfl, .writeError auth (.inr hphase)⟩
  · rename_i auth hphase
    obtain rfl := Option.some.inj h
    exact ⟨rfl, rfl, _, rfl, .authFailed auth hphase⟩
  · rename_i auth hphase
    obtain rfl := Option.some.inj h
    exact ⟨rfl, rfl, _, rfl, .welcomed auth hphase⟩
  · rename_i clientId supportsHeartbeat hphase
    obtain rfl := Option.some.inj h
    exact ⟨rfl, rfl, _, rfl, .spawned clientId supportsHeartbeat hphase⟩
  · rename_i now clientId supportsHeartbeat handle hphase
    rcases s.registry.register_cases clientId handle supportsHeartbeat now sid with
      ⟨hreserved, hvacant, hreg⟩ | ⟨hrefused, e, hreg⟩
    · rw [hreg] at h
      obtain rfl := Option.some.inj h
      exact ⟨rfl, rfl, _, rfl, .registered clientId supportsHeartbeat handle now hphase hreserved
        hvacant⟩
    · rw [hreg] at h
      obtain rfl := Option.some.inj h
      exact ⟨rfl, rfl, _, rfl, .refused clientId supportsHeartbeat handle now hphase hrefused⟩
  · split_ifs at h with hdriver
    obtain rfl := Option.some.inj h
    exact ⟨rfl, rfl, _, rfl, .driverEnded hdriver⟩
  · rename_i clientId handle hphase
    split_ifs at h with hdriver
    obtain rfl := Option.some.inj h
    exact ⟨rfl, rfl, _, rfl, .unregistered clientId handle hphase (by simpa using hdriver)⟩
  · cases h

/-! ## `handle_proxy_request` -/

/-- A step of a request, with what the environment decides in it. -/
inductive RequestStep where
  /-- A public request arrives, and is routed by its host. -/
  | arrive (req : HttpRequest) (now : Instant)
  | limit (now : Instant)
  | lookup
  /-- `open_stream` returns a stream or an error. -/
  | openStream (ok : Bool)
  | writeMarker (ok : Bool)
  | handshake (ok : Bool)
  | buildForwarded (ok : Bool)
  /-- `send_request` returns the tunnel's response, or an error. -/
  | respond (response : Option Response)
  /-- The future is dropped. -/
  | drop
  deriving DecidableEq, Repr

/-- The counters that a request increments once it has looked its client up. -/
def ServerState.track (s : ServerState) (client : ClientEntry) : ServerState :=
  let m := s.clientMetrics client.metrics
  { s with
    clientMetrics := Function.update s.clientMetrics client.metrics
      { m with requests := m.requests + 1, activeStreams := m.activeStreams + 1 }
    metrics := { s.metrics with activeConnections := s.metrics.activeConnections + 1 } }

/-- The counters that a request decrements on each of its exits. -/
def ServerState.untrack (s : ServerState) (client : ClientEntry) : ServerState :=
  let m := s.clientMetrics client.metrics
  { s with
    clientMetrics := Function.update s.clientMetrics client.metrics
      { m with activeStreams := m.activeStreams - 1 }
    metrics := { s.metrics with activeConnections := s.metrics.activeConnections - 1 } }

/-- One step of `handle_proxy_request` for the request `rid`. -/
def handleProxyRequest (config : ServerConfig) (s : ServerState) (rid : ℕ) (l : RequestStep) :
    Option ServerState :=
  match l, s.requests rid with
  | .arrive req now, .idle =>
    let s := { s with metrics := { s.metrics with totalRequests := s.metrics.totalRequests + 1 } }
    match extractRouting req config.domain with
    | some (clientId, _) => some (s.setRequest rid (.routed clientId))
    | none =>
      let clients := s.registry.list now s.clientMetrics
      some (s.setRequest rid (.finished (noRouteResponse clients config.domain)))
  | .limit now, .routed clientId =>
    match s.limiter.check clientId now with
    | (true, limiter) => some { s.setRequest rid (.admitted clientId) with limiter }
    | (false, limiter) =>
      some { s.setRequest rid (.finished (errorResponse 429 "Rate limit exceeded")) with
        limiter, metrics := { s.metrics with rateLimited := s.metrics.rateLimited + 1 } }
  | .lookup, .admitted clientId =>
    match s.registry.get clientId with
    | some client => some ((s.track client).setRequest rid (.opening clientId client))
    | none =>
      some (s.setRequest rid
        (.finished (errorResponse 502 s!"Tunnel '{clientId}' not found or offline")))
  | .openStream true, .opening clientId client =>
    -- The marker is for clients that support heartbeats.
    let next := if client.supportsHeartbeat then Request.marking clientId client
      else .handshaking clientId client
    some { s.setRequest rid next with opened := s.opened ++ [(clientId, client.handle)] }
  | .openStream false, .opening clientId client | .writeMarker false, .marking clientId client =>
    some ((s.untrack client).setRequest rid
      (.finished (errorResponse 502 s!"Tunnel '{clientId}' connection error")))
  | .writeMarker true, .marking clientId client =>
    some (s.setRequest rid (.handshaking clientId client))
  | .handshake true, .handshaking clientId client =>
    some (s.setRequest rid (.forwarding clientId client))
  | .handshake false, .handshaking _ client =>
    some ((s.untrack client).setRequest rid
      (.finished (errorResponse 502 "Tunnel HTTP handshake failed")))
  | .buildForwarded true, .forwarding clientId client =>
    some (s.setRequest rid (.sending clientId client))
  | .buildForwarded false, .forwarding _ client =>
    some ((s.untrack client).setRequest rid
      (.finished (errorResponse 500 "Request forwarding error")))
  | .respond (some response), .sending _ client =>
    some ((s.untrack client).setRequest rid (.finished response))
  | .respond none, .sending clientId client =>
    some ((s.untrack client).setRequest rid
      (.finished (errorResponse 502 s!"Tunnel '{clientId}' did not respond")))
  | .drop, .opening _ _ | .drop, .marking _ _ | .drop, .handshaking _ _ | .drop, .sending _ _ =>
    some (s.setRequest rid .dropped)
  | _, _ => none

/-- What a step of the request `rid` can do to the parts of the state that it shares with the
sessions, and to the entries that the requests hold. -/
structure HandleProxyRequest (s : ServerState) (rid : ℕ) (s' : ServerState) : Prop where
  sessions : s'.sessions = s.sessions
  registry : s'.registry = s.registry
  others : ∀ rid', rid' ≠ rid → s'.requests rid' = s.requests rid'
  /-- The entry that the request holds is the one it held before, or one that it looked up. -/
  client : ∀ id client, (s'.requests rid).client? = some (id, client) →
    (s.requests rid).client? = some (id, client) ∨ s.registry.get id = some client
  /-- A stream is opened on the entry that the request holds. -/
  opened : ∀ id handle, (id, handle) ∈ s'.opened → (id, handle) ∈ s.opened ∨
    ∃ client, (s.requests rid).client? = some (id, client) ∧ client.handle = handle

/-- A step that looks nothing up and opens no stream. -/
theorem HandleProxyRequest.of_quiet {s s' : ServerState} {rid : ℕ} {request : Request}
    (hsessions : s'.sessions = s.sessions) (hregistry : s'.registry = s.registry)
    (hrequests : s'.requests = Function.update s.requests rid request)
    (hopened : s'.opened = s.opened)
    (hclient : request.client? = none ∨ request.client? = (s.requests rid).client?) :
    HandleProxyRequest s rid s' where
  sessions := hsessions
  registry := hregistry
  others rid' hne := by rw [hrequests, Function.update_of_ne hne]
  client id client h := by
    rw [hrequests, Function.update_self] at h
    rcases hclient with hnone | hsame
    · rw [hnone] at h
      cases h
    · exact .inl (hsame ▸ h)
  opened id handle h := .inl (hopened ▸ h)

/-- Every step of a request is as `HandleProxyRequest` says. -/
theorem handleProxyRequest_cases {config : ServerConfig} {s s' : ServerState} {rid : ℕ}
    {l : RequestStep} (h : handleProxyRequest config s rid l = some s') :
    HandleProxyRequest s rid s' := by
  unfold handleProxyRequest at h
  split at h
  · dsimp only at h
    split at h
    all_goals
      obtain rfl := Option.some.inj h
      exact .of_quiet rfl rfl rfl rfl (.inl rfl)
  · split at h
    all_goals
      obtain rfl := Option.some.inj h
      exact .of_quiet rfl rfl rfl rfl (.inl rfl)
  · rename_i clientId hphase
    split at h
    · rename_i client hget
      obtain rfl := Option.some.inj h
      refine ⟨rfl, rfl, fun rid' hne => Function.update_of_ne hne _ _, fun id c hc => .inr ?_,
        fun id handle ho => .inl ho⟩
      -- The request now holds the entry that the registry returned.
      obtain ⟨rfl, rfl⟩ : clientId = id ∧ client = c := by
        simpa [ServerState.setRequest, Request.client?] using hc
      exact hget
    · obtain rfl := Option.some.inj h
      exact .of_quiet rfl rfl rfl rfl (.inl rfl)
  · rename_i clientId client hphase
    obtain rfl := Option.some.inj h
    have hheld : (s.requests rid).client? = some (clientId, client) := by rw [hphase]; rfl
    refine ⟨rfl, rfl, fun rid' hne => Function.update_of_ne hne _ _, fun id c hc => .inl ?_,
      fun id handle ho => ?_⟩
    · rw [hheld, ← hc]
      cases hbeat : client.supportsHeartbeat <;> simp [ServerState.setRequest, Request.client?]
    · rcases List.mem_append.mp ho with ho | ho
      · exact .inl ho
      · obtain ⟨rfl, rfl⟩ : id = clientId ∧ handle = client.handle := by simpa using ho
        exact .inr ⟨client, hheld, rfl⟩
  -- On an exit the request lets its entry go, on a step forward it keeps it.
  · obtain rfl := Option.some.inj h
    exact .of_quiet rfl rfl rfl rfl (.inl rfl)
  · obtain rfl := Option.some.inj h
    exact .of_quiet rfl rfl rfl rfl (.inl rfl)
  · rename_i hphase
    obtain rfl := Option.some.inj h
    exact .of_quiet rfl rfl rfl rfl (.inr (by rw [hphase]; rfl))
  · rename_i hphase
    obtain rfl := Option.some.inj h
    exact .of_quiet rfl rfl rfl rfl (.inr (by rw [hphase]; rfl))
  · obtain rfl := Option.some.inj h
    exact .of_quiet rfl rfl rfl rfl (.inl rfl)
  · rename_i hphase
    obtain rfl := Option.some.inj h
    exact .of_quiet rfl rfl rfl rfl (.inr (by rw [hphase]; rfl))
  · obtain rfl := Option.some.inj h
    exact .of_quiet rfl rfl rfl rfl (.inl rfl)
  · obtain rfl := Option.some.inj h
    exact .of_quiet rfl rfl rfl rfl (.inl rfl)
  · obtain rfl := Option.some.inj h
    exact .of_quiet rfl rfl rfl rfl (.inl rfl)
  -- A dropped request lets its entry go, in each of its waits.
  · obtain rfl := Option.some.inj h
    exact .of_quiet rfl rfl rfl rfl (.inl rfl)
  · obtain rfl := Option.some.inj h
    exact .of_quiet rfl rfl rfl rfl (.inl rfl)
  · obtain rfl := Option.some.inj h
    exact .of_quiet rfl rfl rfl rfl (.inl rfl)
  · obtain rfl := Option.some.inj h
    exact .of_quiet rfl rfl rfl rfl (.inl rfl)
  · cases h

/-! ## The server -/

/-- A step of the server: one of a session or one of a request. -/
inductive ServerStep where
  | session (sid : ℕ) (l : SessionStep)
  | request (rid : ℕ) (l : RequestStep)
  deriving DecidableEq, Repr

/-- One step of the server. -/
def serverStep (config : ServerConfig) (S : Serde) (s : ServerState) :
    ServerStep → Option ServerState
  | .session sid l => handleClient config S s sid l
  | .request rid l => handleProxyRequest config s rid l

/-- The first bytes of a client with the id `app`. -/
def appHello : List UInt8 :=
  (writeMessage handshakeSerde .unlimited (.authReq ⟨"app", "t0k", some "0.1.0"⟩)).2.bytes

/-- The steps of a session up to its `AuthRes`. -/
def handshakeSteps (sid : ℕ) : List ServerStep :=
  [.session sid (.accept appHello), .session sid .readAuth, .session sid .validate,
    .session sid (.writeAuthRes true)]

end ZoTunnel
