import ZoTunnel.Lib.Header
import ZoTunnel.Server.Proxy

/-!
# Which names are reachable

`Registry::register` takes any client id that is not reserved and not taken. Whether a visitor can
reach the tunnel is decided by two other filters: `serve_http` (`server.rs`), which sends a request
to the dashboard or to the proxy, and `extract_routing`, which reads the client id off the `host`
header. `reachable_iff` compares the filters: the names that are registered and reachable are the
non-empty ones with no `:` that make a plain header value (`Header.Plain`) with the base domain.
-/

namespace ZoTunnel

open Bytes (asBytes)

/-- Where `serve_http` sends a request. -/
inductive Served where
  | dashboard
  | proxy
  deriving DecidableEq, Repr

/-- The path of Caddy's TLS check. -/
def tlsCheckPath : String := "/api/tls-check"

/-- `Server::serve_http`: routes to dashboard or tunnel proxy by subdomain. The TLS check goes to
the dashboard regardless of the host. -/
def serveHttp (req : HttpRequest) (domain : String) : Served :=
  let dashboardHost := "dashboard." ++ domain
  let host := req.host.getD ""
  let hostNoPort := Text.beforeChar ':' host
  if req.path = tlsCheckPath then .dashboard
  else if hostNoPort = dashboardHost then .dashboard
  else .proxy

/-- The request as it is read off its headers. -/
def HttpRequest.ofHost (host : Option Header.Value) (path : String) : HttpRequest :=
  ⟨host.bind Header.Value.toStr, path⟩

/-- A host with a port, or with none. -/
def withPort (host : String) : Option UInt16 → String
  | none => host
  | some port => host ++ (":" ++ toString port.toNat)

/-- A client id is reachable: a visitor can send its host, with or without a port, and each request
with this host that is no TLS check is sent to the proxy and routed to the client id. -/
def Reachable (domain clientId : String) : Prop :=
  ∀ port : Option UInt16, ∃ host : Header.Value,
    host.bytes = asBytes (withPort (clientId ++ "." ++ domain) port) ∧
      ∀ path, path ≠ tlsCheckPath → serveHttp (.ofHost (some host) path) domain = .proxy ∧
        extractRouting (.ofHost (some host) path) domain = some (clientId, path)

/-- A client id that names a host under the domain. -/
structure NamesHost (domain clientId : String) : Prop where
  nonempty : clientId ≠ ""
  noColon : ':' ∉ (clientId ++ "." ++ domain).toList
  plain : Header.Plain (clientId ++ "." ++ domain)

instance (domain clientId : String) : Decidable (NamesHost domain clientId) :=
  decidable_of_iff (clientId ≠ "" ∧ ':' ∉ (clientId ++ "." ++ domain).toList ∧
      Header.Plain (clientId ++ "." ++ domain))
    ⟨fun ⟨hne, hcolon, hplain⟩ => ⟨hne, hcolon, hplain⟩,
      fun h => ⟨h.nonempty, h.noColon, h.plain⟩⟩

/-- A request is routed to the id in front of the domain, when its host has one. -/
theorem extractRouting_eq_some_iff {req : HttpRequest} {domain clientId path : String} :
    extractRouting req domain = some (clientId, path) ↔
      ∃ host, req.host = some host ∧ Text.beforeChar ':' host = clientId ++ "." ++ domain ∧
        clientId ≠ "" ∧ req.path = path := by
  unfold extractRouting
  simp only [Option.bind_eq_bind, Option.bind_eq_some_iff, Text.stripSuffix_eq_some_iff,
    String.append_assoc]
  constructor
  · rintro ⟨host, hhost, id, hid, h⟩
    split_ifs at h with hempty
    obtain ⟨rfl, rfl⟩ := Prod.mk.inj (Option.some.inj h)
    exact ⟨host, hhost, hid, fun heq => hempty (by rw [heq]; rfl), rfl⟩
  · rintro ⟨host, hhost, hid, hne, rfl⟩
    refine ⟨host, hhost, clientId, hid, if_neg fun hempty => hne ?_⟩
    exact String.isEmpty_iff.mp hempty

/-- The proxy is sent the requests that are no TLS checks and do not name the dashboard. -/
theorem serveHttp_eq_proxy_iff {req : HttpRequest} {domain : String} :
    serveHttp req domain = .proxy ↔ req.path ≠ tlsCheckPath ∧
      Text.beforeChar ':' (req.host.getD "") ≠ "dashboard." ++ domain := by
  unfold serveHttp
  dsimp only
  split_ifs with hpath hhost
  · simp [hpath]
  · simp [hhost]
  · exact ⟨fun _ => ⟨hpath, hhost⟩, fun _ => rfl⟩

/-- A port is digits. -/
theorem isDigit_of_mem_port {n : ℕ} {c : Char} (h : c ∈ (toString n).toList) :
    c.isDigit = true := by
  have hrepr : (toString n).toList = Nat.toDigits 10 n := by
    rw [Nat.toString_eq_repr, Nat.repr_eq_ofList_toDigits, String.toList_ofList]
  rw [hrepr] at h
  exact Nat.isDigit_of_mem_toDigits (by decide) (by decide) h

/-- A host with a port is a plain header value when the host is one. -/
theorem plain_withPort {host : String} (h : Header.Plain host) (port : Option UInt16) :
    Header.Plain (withPort host port) := by
  cases port with
  | none => exact h
  | some port =>
    -- A character of the port, or the colon before it.
    have hport : ∀ c ∈ (":" ++ toString port.toNat).toList,
        Header.isVisible c = true ∧ Header.isBlank c = false := by
      intro c hc
      rw [String.toList_append] at hc
      rcases List.mem_append.mp hc with hc | hc
      · obtain rfl : c = ':' := List.mem_singleton.mp hc
        exact ⟨rfl, rfl⟩
      · have hdigit := isDigit_of_mem_port hc
        have hrange : 48 ≤ c.toNat ∧ c.toNat ≤ 57 := by
          simpa [Char.isDigit, UInt32.le_iff_toNat_le] using hdigit
        simp only [Header.isVisible, Header.isBlank, Bool.or_eq_true, Bool.and_eq_true,
          decide_eq_true_eq, beq_iff_eq, Bool.or_eq_false_iff, beq_eq_false_iff_ne]
        omega
    refine ⟨fun c hc => ?_, fun c hc => ?_⟩
    · rw [withPort, String.toList_append] at hc
      rcases List.mem_append.mp hc with hc | hc
      · exact h.visible c hc
      · exact (hport c hc).1
    · rw [withPort, String.toList_append, List.head?_append, List.getLast?_append] at hc
      rcases hc with hc | hc
      · rcases Option.or_eq_some_iff.mp hc with hc | ⟨-, hc⟩
        · exact h.trimmed c (.inl hc)
        · exact (hport c (List.mem_of_head? hc)).2
      · rcases Option.or_eq_some_iff.mp hc with hc | ⟨hnone, -⟩
        · exact (hport c (List.mem_of_getLast? hc)).2
        · rw [List.getLast?_eq_none_iff, String.toList_append] at hnone
          cases hnone

/-- The port is cut off again. -/
theorem beforeChar_withPort {host : String} (h : ':' ∉ host.toList) (port : Option UInt16) :
    Text.beforeChar ':' (withPort host port) = host := by
  cases port with
  | none => exact Text.beforeChar_of_notMem h
  | some port =>
    refine Text.beforeChar_append h fun c hc => ?_
    rw [String.toList_append] at hc
    exact (Option.some.inj hc).symm

/-- No host is routed to two different client ids. -/
def RoutesUniquely (domain : String) : Prop :=
  ∀ host path path' clientId clientId' rest rest',
    extractRouting (.ofHost host path) domain = some (clientId, rest) →
      extractRouting (.ofHost host path') domain = some (clientId', rest') → clientId = clientId'

/-- The id in front of a domain is unique. -/
theorem clientId_of_host {clientId clientId' domain : String}
    (h : clientId ++ "." ++ domain = clientId' ++ "." ++ domain) : clientId = clientId' := by
  have hlist := congrArg String.toList h
  simp only [String.toList_append, List.append_assoc] at hlist
  exact String.toList_inj.mp (List.append_cancel_right hlist)

/-- Routing is by the host alone. -/
theorem routesUniquely (domain : String) : RoutesUniquely domain := by
  intro host path path' clientId clientId' rest rest' h h'
  obtain ⟨name, hname, heq, -, -⟩ := extractRouting_eq_some_iff.mp h
  obtain ⟨name', hname', heq', -, -⟩ := extractRouting_eq_some_iff.mp h'
  obtain rfl : name = name' := Option.some.inj (hname.symm.trans hname')
  exact clientId_of_host (heq.symm.trans heq')

/-- The id that a request is routed to names the host that the request was sent to. -/
theorem NamesHost.of_routed {host : Header.Value} {domain clientId path rest : String}
    (hbytes : host.bytes = asBytes (clientId ++ "." ++ domain))
    (h : extractRouting (.ofHost (some host) path) domain = some (clientId, rest)) :
    NamesHost domain clientId := by
  obtain ⟨name, hname, heq, hne, -⟩ := extractRouting_eq_some_iff.mp h
  obtain ⟨rfl, hplain⟩ := Header.plain_of_toStr hbytes hname
  refine ⟨hne, ?_, hplain⟩
  rw [← heq]
  exact Text.notMem_beforeChar ':' _

/-- A request for the host of an id that names one is routed to the id. -/
theorem NamesHost.routes {domain clientId : String} (h : NamesHost domain clientId)
    {host : Header.Value} {port : Option UInt16}
    (hread : host.toStr = some (withPort (clientId ++ "." ++ domain) port)) (path : String) :
    extractRouting (.ofHost (some host) path) domain = some (clientId, path) :=
  extractRouting_eq_some_iff.mpr ⟨_, hread, beforeChar_withPort h.noColon port, h.nonempty, rfl⟩

/-- A registered name is reachable exactly when it is not empty, has no `:` with its domain, and
makes a plain header value with it. -/
theorem reachable_iff (registry registry' : Registry) (entry : ClientEntry)
    (domain clientId : String) (handle : YamuxHandle) (supportsHeartbeat : Bool) (now : Instant)
    (metrics : ℕ) (h : registry.register clientId handle supportsHeartbeat now metrics =
      (.ok entry, registry')) :
    Reachable domain clientId ∧ RoutesUniquely domain ↔ NamesHost domain clientId := by
  -- A registered name is not that of the dashboard.
  have hdashboard : clientId ≠ "dashboard" := by
    rintro rfl
    rcases registry.register_cases "dashboard" handle supportsHeartbeat now metrics with
      ⟨hreserved, -, -⟩ | ⟨-, e, herror⟩
    · exact hreserved (by decide)
    · rw [herror] at h
      cases (Prod.mk.inj h).1
  constructor
  · rintro ⟨hreach, -⟩
    obtain ⟨host, hbytes, hroutes⟩ := hreach none
    exact .of_routed hbytes (hroutes "/" (by decide)).2
  · intro hnames
    refine ⟨fun port => ?_, routesUniquely domain⟩
    obtain ⟨host, hbytes, hread⟩ := Header.exists_value_iff.mpr (plain_withPort hnames.plain port)
    refine ⟨host, hbytes, fun path hpath => ⟨?_, hnames.routes hread path⟩⟩
    rw [serveHttp_eq_proxy_iff]
    refine ⟨hpath, ?_⟩
    have hhost : (HttpRequest.ofHost (some host) path).host.getD "" =
        withPort (clientId ++ "." ++ domain) port := by
      unfold HttpRequest.ofHost
      rw [Option.bind_some, hread, Option.getD_some]
    rw [hhost, beforeChar_withPort hnames.noColon]
    exact fun heq => hdashboard (clientId_of_host heq)

/-- The name `webapp` is reachable once it is registered. -/
theorem reachable_webapp :
    (Registry.new.register "webapp" ⟨0⟩ true 0 0).1 = .ok ⟨"webapp", ⟨0⟩, 0, 0, true⟩ ∧
      Reachable "tunnel.example.com" "webapp" ∧ RoutesUniquely "tunnel.example.com" := by
  have hnames : NamesHost "tunnel.example.com" "webapp" := by decide
  exact ⟨rfl, (reachable_iff .new _ _ "tunnel.example.com" "webapp" ⟨0⟩ true 0 0 rfl).mpr hnames⟩

/-- The name `café`, which the client's own check of its letters lets through, is registered and
cannot be reached. -/
theorem accepted_name_unreachable :
    ¬ ∀ (registry registry' : Registry) (entry : ClientEntry) (domain clientId : String)
      (handle : YamuxHandle) (supportsHeartbeat : Bool) (now : Instant) (metrics : ℕ), domain ≠ "" →
      registry.register clientId handle supportsHeartbeat now metrics = (.ok entry, registry') →
        Reachable domain clientId ∧ RoutesUniquely domain := by
  intro h
  obtain ⟨hreach, -⟩ := h .new _ _ "tunnel.example.com" "café" ⟨0⟩ true 0 0 (by decide) rfl
  obtain ⟨host, hbytes, hroutes⟩ := hreach none
  have hnames : NamesHost "tunnel.example.com" "café" :=
    .of_routed hbytes (hroutes "/" (by decide)).2
  exact absurd hnames (by decide)

end ZoTunnel
