import ZoTunnel.Server.TlsApproval

/-!
# The spelling of host names

Host names are the same when they differ in the case of their letters only. The server compares them
byte by byte, in four places: `serve_http` with the host of the dashboard, `extract_routing` with
the domain, the registry with the ids of the clients, and `register` and `api_tls_check` with the
reserved subdomains. `spelling_decides` says which requests are then routed alike, and which domains
get the same answer: a name in another spelling is another name.
-/

namespace ZoTunnel

/-- A byte with its letter in lower case, if it is one. -/
def asciiLower (b : UInt8) : UInt8 := if 65 ≤ b ∧ b ≤ 90 then b + 32 else b

/-- Two header values that differ in the case of ASCII letters only. -/
def SameUpToCase (host host' : Header.Value) : Prop :=
  host.bytes.map asciiLower = host'.bytes.map asciiLower

/-- Where a request is sent: to the dashboard, to a client, or nowhere. -/
inductive Route where
  | dashboard
  | client (clientId : String)
  | noRoute
  deriving DecidableEq, Repr

/-- The route of a request by `serve_http` and `extract_routing`. -/
def route (domain : String) (req : HttpRequest) : Route :=
  match serveHttp req domain with
  | .dashboard => .dashboard
  | .proxy =>
    match extractRouting req domain with
    | some (clientId, _) => .client clientId
    | none => .noRoute

/-- The server takes no account of case: hosts that are the same up to case are routed alike,
domains get the same answer to the TLS check, and no client has the host of a reserved subdomain. -/
structure IgnoresCase (domain : String) (registry : Registry) : Prop where
  routes : ∀ (path : String) (host host' : Header.Value), SameUpToCase host host' →
    route domain (.ofHost (some host) path) = route domain (.ofHost (some host') path)
  answers : ∀ mgr get requested requested', Text.eqIgnoreAsciiCase requested requested' = true →
    apiTlsCheck domain registry mgr get requested = apiTlsCheck domain registry mgr get requested'
  reserved : ∀ clientId, (registry.get clientId).isSome = true → ∀ r ∈ reservedSubdomains,
    Text.eqIgnoreAsciiCase (clientId ++ "." ++ domain) (r ++ "." ++ domain) = false

/-- The host of a request without its port. -/
def HttpRequest.hostNoPort (req : HttpRequest) : String := Text.beforeChar ':' (req.host.getD "")

/-- A request names a host under the domain, that of the dashboard or of a client. -/
def UnderDomain (domain : String) (req : HttpRequest) : Prop :=
  ∃ sub, sub ≠ "" ∧ req.hostNoPort = sub ++ "." ++ domain

/-- A subdomain that the TLS check approves. -/
def Known (registry : Registry) (sub : String) : Prop :=
  sub ∈ reservedSubdomains ∨ (registry.get sub).isSome = true

/-- A request for a host under the domain is sent to the dashboard or to the client in front of the
domain. -/
theorem route_underDomain {domain sub : String} {req : HttpRequest}
    (hpath : req.path ≠ tlsCheckPath) (hsub : sub ≠ "")
    (hhost : req.hostNoPort = sub ++ "." ++ domain) :
    route domain req = if sub = "dashboard" then .dashboard else .client sub := by
  have hread : ∃ host, req.host = some host := by
    cases hnone : req.host with
    | some host => exact ⟨host, rfl⟩
    | none =>
      -- No host reads as the empty one, which has no dot.
      rw [HttpRequest.hostNoPort, hnone] at hhost
      have hlength := congrArg (fun s => s.toList.length) hhost
      simp [Text.beforeChar] at hlength
  obtain ⟨host, hread⟩ := hread
  unfold HttpRequest.hostNoPort at hhost
  unfold route
  by_cases hdashboard : sub = "dashboard"
  · have hserved : serveHttp req domain = .dashboard := by
      unfold serveHttp
      dsimp only
      rw [if_neg hpath, if_pos]
      rw [hhost, hdashboard]
      rfl
    rw [hserved, if_pos hdashboard]
  · have hserved : serveHttp req domain = .proxy := by
      rw [serveHttp_eq_proxy_iff]
      refine ⟨hpath, fun heq => hdashboard ?_⟩
      exact clientId_of_host (hhost.symm.trans heq)
    have hrouted : extractRouting req domain = some (sub, req.path) := by
      rw [hread, Option.getD_some] at hhost
      exact extractRouting_eq_some_iff.mpr ⟨host, hread, hhost, hsub, rfl⟩
    rw [hserved, hrouted, if_neg hdashboard]

/-- Any other request is sent nowhere. -/
theorem route_not_underDomain {domain : String} {req : HttpRequest}
    (hpath : req.path ≠ tlsCheckPath) (h : ¬ UnderDomain domain req) :
    route domain req = .noRoute := by
  have hserved : serveHttp req domain = .proxy := by
    rw [serveHttp_eq_proxy_iff]
    exact ⟨hpath, fun heq => h ⟨"dashboard", by decide, heq⟩⟩
  have hrouted : extractRouting req domain = none := by
    cases hsome : extractRouting req domain with
    | none => rfl
    | some p =>
      obtain ⟨host, hread, hhost, hne, -⟩ := extractRouting_eq_some_iff.mp hsome
      refine absurd ⟨p.1, hne, ?_⟩ h
      rw [HttpRequest.hostNoPort, hread, Option.getD_some, hhost]
  unfold route
  rw [hserved, hrouted]

/-- The TLS check is sent to the dashboard. -/
theorem route_tlsCheck {domain : String} {req : HttpRequest} (hpath : req.path = tlsCheckPath) :
    route domain req = .dashboard := by
  have hserved : serveHttp req domain = .dashboard := by
    unfold serveHttp
    dsimp only
    rw [if_pos hpath]
  unfold route
  rw [hserved]

/-- A request under the domain and one that is not have different hosts and routes. -/
theorem UnderDomain.differs {domain : String} {req req' : HttpRequest}
    (h : UnderDomain domain req) (hnot : ¬ UnderDomain domain req')
    (hpath : req.path ≠ tlsCheckPath) (hpath' : req'.path ≠ tlsCheckPath) :
    req.hostNoPort ≠ req'.hostNoPort ∧ route domain req ≠ route domain req' := by
  obtain ⟨sub, hsub, hhost⟩ := h
  constructor
  · intro hsame
    exact hnot ⟨sub, hsub, hsame.symm.trans hhost⟩
  · rw [route_underDomain hpath hsub hhost, route_not_underDomain hpath' hnot]
    split_ifs <;> simp

/-- Requests under the domain are routed alike exactly if their hosts are the same. -/
theorem UnderDomain.route_eq_iff {domain : String} {req req' : HttpRequest}
    (h : UnderDomain domain req) (h' : UnderDomain domain req') (hpath : req.path ≠ tlsCheckPath)
    (hpath' : req'.path ≠ tlsCheckPath) :
    route domain req = route domain req' ↔ req.hostNoPort = req'.hostNoPort := by
  obtain ⟨sub, hsub, hhost⟩ := h
  obtain ⟨sub', hsub', hhost'⟩ := h'
  rw [route_underDomain hpath hsub hhost, route_underDomain hpath' hsub' hhost', hhost, hhost']
  constructor
  · intro heq
    have hsame : sub = sub' := by
      split_ifs at heq with h h'
      · rw [h, h']
      · exact Route.client.inj heq
    rw [hsame]
  · intro heq
    rw [clientId_of_host heq]

/-- Two requests for one path are routed alike exactly if they are TLS checks, or name the same host
byte by byte, or name no host under the domain. -/
theorem route_eq_iff {domain : String} {req req' : HttpRequest} (hpath : req.path = req'.path) :
    route domain req = route domain req' ↔ req.path = tlsCheckPath ∨
      req.hostNoPort = req'.hostNoPort ∨ ¬ UnderDomain domain req ∧ ¬ UnderDomain domain req' := by
  by_cases htls : req.path = tlsCheckPath
  · rw [route_tlsCheck htls, route_tlsCheck (hpath ▸ htls)]
    exact iff_of_true rfl (.inl htls)
  have htls' : req'.path ≠ tlsCheckPath := hpath ▸ htls
  by_cases hunder : UnderDomain domain req <;> by_cases hunder' : UnderDomain domain req'
  · simp only [hunder.route_eq_iff hunder' htls htls', htls, hunder, not_true, false_and, or_false,
      false_or]
  · obtain ⟨hhost, hroute⟩ := hunder.differs hunder' htls htls'
    simp only [hroute, htls, hhost, hunder, not_true, false_and, or_false]
  · obtain ⟨hhost, hroute⟩ := hunder'.differs hunder htls' htls
    simp only [hroute.symm, htls, hhost.symm, hunder', not_true, and_false, or_false]
  · rw [route_not_underDomain htls hunder, route_not_underDomain htls' hunder']
    exact iff_of_true rfl (.inr (.inr ⟨hunder, hunder'⟩))

/-- Two names under the domain get the same answer to the TLS check exactly if both of the
subdomains are known, or neither. -/
theorem apiTlsCheck_under_eq_iff {domain : String} {registry : Registry}
    {mgr : Option CaddyManager} {get : String → Option UInt16} {sub sub' : String} :
    apiTlsCheck domain registry mgr get (sub ++ "." ++ domain) =
        apiTlsCheck domain registry mgr get (sub' ++ "." ++ domain) ↔
      (Known registry sub ↔ Known registry sub') := by
  have hanswer : ∀ sub, apiTlsCheck domain registry mgr get (sub ++ "." ++ domain) = 200 ∨
      apiTlsCheck domain registry mgr get (sub ++ "." ++ domain) = 403 := by
    intro sub
    unfold apiTlsCheck
    rw [stripSuffix_under]
    dsimp only
    split_ifs
    · exact .inl rfl
    · exact .inl rfl
    · exact .inr rfl
  have hne : (403 : UInt16) ≠ 200 := by decide
  have h := @apiTlsCheck_under registry domain mgr sub get
  have h' := @apiTlsCheck_under registry domain mgr sub' get
  unfold Known
  rw [← h, ← h']
  rcases hanswer sub with ha | ha <;> rcases hanswer sub' with ha' | ha' <;>
    simp [ha, ha', hne, hne.symm]

/-- A name outside the domain gets the answer of the fallback, if there is one, whatever the clients
and the reserved subdomains are. -/
theorem apiTlsCheck_fallback {domain : String} {registry : Registry} {mgr : Option CaddyManager}
    {get : String → Option UInt16} {requested : String}
    (h : ∀ sub, requested ≠ sub ++ "." ++ domain) :
    apiTlsCheck domain registry mgr get requested =
      ((mgr.bind fun mgr => mgr.checkFallback get requested).map relayStatus).getD 403 := by
  have hstrip : Text.stripSuffix requested ("." ++ domain) = none := by
    rw [Option.eq_none_iff_forall_ne_some]
    intro sub hsub
    refine h sub ?_
    rw [String.append_assoc]
    exact Text.stripSuffix_eq_some_iff.mp hsub
  unfold apiTlsCheck
  rw [hstrip]
  dsimp only
  cases mgr.bind fun mgr => mgr.checkFallback get requested <;> rfl

/-- Names are compared byte by byte: requests for one path are routed alike exactly if they are TLS
checks, or name the same host in the same spelling, or name no host under the domain; two names
under the domain get the same answer to the TLS check exactly if both of the subdomains are known in
their spelling, or neither, and every other name gets the fallback's; and no client has the host of
a reserved subdomain in its spelling. -/
theorem spelling_decides (domain : String) (registry : Registry) :
    (∀ (path : String) (host host' : Header.Value),
      route domain (.ofHost (some host) path) = route domain (.ofHost (some host') path) ↔
        path = tlsCheckPath ∨
          (HttpRequest.ofHost (some host) path).hostNoPort =
            (HttpRequest.ofHost (some host') path).hostNoPort ∨
          ¬ UnderDomain domain (.ofHost (some host) path) ∧
            ¬ UnderDomain domain (.ofHost (some host') path)) ∧
      (∀ mgr get sub sub', apiTlsCheck domain registry mgr get (sub ++ "." ++ domain) =
          apiTlsCheck domain registry mgr get (sub' ++ "." ++ domain) ↔
        (Known registry sub ↔ Known registry sub')) ∧
      (∀ mgr get requested, (∀ sub, requested ≠ sub ++ "." ++ domain) →
        apiTlsCheck domain registry mgr get requested =
          ((mgr.bind fun mgr => mgr.checkFallback get requested).map relayStatus).getD 403) ∧
      ∀ clientId, (registry.get clientId).isSome = true → ∀ r ∈ reservedSubdomains,
        clientId ++ "." ++ domain ≠ r ++ "." ++ domain := by
  refine ⟨fun path host host' => route_eq_iff rfl, fun _ _ _ _ => apiTlsCheck_under_eq_iff,
    fun _ _ _ h => apiTlsCheck_fallback h, ?_⟩
  intro clientId hget r hr heq
  obtain rfl := clientId_of_host heq
  obtain ⟨entry, hentry⟩ := Option.isSome_iff_exists.mp hget
  exact registry.unreserved clientId entry hentry hr

/-- A client `Dashboard` is registered, and gets the requests for the host of the dashboard when it
is spelled so. -/
theorem dashboard_spelled_otherwise :
    ¬ ∀ (domain : String) (registry : Registry), IgnoresCase domain registry := by
  intro h
  have hcase := h "example.com" (Registry.new.insert ⟨"Dashboard", ⟨0⟩, 0, 0, true⟩ (by decide))
  have hroutes := hcase.routes "/"
    (Header.Value.ofText "dashboard.example.com" (by decide) (by decide) (by decide))
    (Header.Value.ofText "Dashboard.example.com" (by decide) (by decide) (by decide))
    (by unfold SameUpToCase; decide)
  revert hroutes
  decide

end ZoTunnel
