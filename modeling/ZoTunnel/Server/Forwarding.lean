import ZoTunnel.Lib.HeaderMap
import ZoTunnel.Server.Routing

/-!
# What the proxy changes in a request

`build_forwarded_request` (`proxy.rs`) takes the target of a public request apart and parses it
again, and sets two headers. `forwarded_request` says that the target stays what it was, that the
client's name is the one value of `x-zo-tunnel-client` whatever the visitor sent under it, that
`connection` is `close`, and that nothing else changes.

How `hyper::Uri` reads a target, and which texts `HeaderValue::from_str` accepts, are parameters.
-/

namespace ZoTunnel

open Bytes (asBytes)

/-- The version of an HTTP/1 message. -/
inductive HttpVersion where
  | http10
  | http11
  deriving DecidableEq, Repr

/-- What `hyper::Uri` says of a target: `path()` and `query()`. -/
structure TargetUri where
  path : String
  query : Option String
  deriving DecidableEq, Repr

/-- A request with its parts and its body. -/
structure ProxiedRequest (Body : Type) where
  method : String
  uri : TargetUri
  version : HttpVersion
  headers : HeaderMap Header.Field
  body : Body

/-- What routing reads of a request. -/
def ProxiedRequest.routing {Body : Type} (req : ProxiedRequest Body) : HttpRequest :=
  ⟨(req.headers.get "host").bind Header.Field.toStr, req.uri.path⟩

/-- The parsers of the `http` crate: `hyper::Uri`'s `parse`, and `HeaderValue::from_str`. -/
structure HttpParsers where
  uri : String → Option TargetUri
  headerValue : String → Option Header.Field

/-- The text of a path and a query. -/
def TargetUri.pathAndQuery (uri : TargetUri) : String :=
  uri.path ++ (uri.query.map ("?" ++ ·)).getD ""

/-- What the proxy relies on: the path and query of a target in origin form parse to that target
again, and every text of visible ASCII is a header value, with its own bytes. -/
structure HttpParsers.Lawful (http : HttpParsers) : Prop where
  again : ∀ {target : String} {uri : TargetUri}, target.toList.head? = some '/' →
    http.uri target = some uri → http.uri uri.pathAndQuery = some uri
  visible : ∀ {s : String}, (∀ c ∈ s.toList, Header.isVisible c = true) →
    ∃ v, http.headerValue s = some v ∧ v.bytes = asBytes s

/-- The value `close`. -/
def closeValue : Header.Field := ⟨asBytes "close", List.all_eq_true.mp (by decide)⟩

/-- Build a forwarded request, rewriting the path and adding proxy headers. -/
def buildForwardedRequest {Body : Type} (http : HttpParsers) (req : ProxiedRequest Body)
    (path clientId : String) : Except Error (ProxiedRequest Body) := do
  let query := (req.uri.query.map ("?" ++ ·)).getD ""
  let newUri ← match http.uri (path ++ query) with
    | some uri => .ok uri
    | none => .error "build forwarded uri"
  let headers := match http.headerValue clientId with
    | some val => req.headers.insert "x-zo-tunnel-client" val
    | none => req.headers
  .ok { req with uri := newUri, headers := headers.insert "connection" closeValue }

/-- The forwarded request, when the target parses again. -/
theorem buildForwardedRequest_of_parse {Body : Type} {http : HttpParsers}
    {req : ProxiedRequest Body} {uri : TargetUri} {clientId : String} {val : Header.Field}
    (huri : http.uri req.uri.pathAndQuery = some uri)
    (hval : http.headerValue clientId = some val) :
    buildForwardedRequest http req req.uri.path clientId =
      .ok { req with
        uri := uri
        headers :=
          (req.headers.insert "x-zo-tunnel-client" val).insert "connection" closeValue } := by
  unfold TargetUri.pathAndQuery at huri
  unfold buildForwardedRequest
  simp only [huri, hval]
  rfl

/-- A client id that a request is routed to is visible ASCII, as the host that it was cut from. -/
theorem visible_of_extractRouting {Body : Type} {req : ProxiedRequest Body}
    {domain clientId path : String}
    (h : extractRouting req.routing domain = some (clientId, path)) :
    ∀ c ∈ clientId.toList, Header.isVisible c = true := by
  obtain ⟨host, hhost, hid, -, -⟩ := extractRouting_eq_some_iff.mp h
  obtain ⟨v, -, hread⟩ := Option.bind_eq_some_iff.mp hhost
  intro c hc
  have hmem : c ∈ (Text.beforeChar ':' host).toList := by
    rw [hid, String.append_assoc, String.toList_append]
    exact List.mem_append_left _ hc
  exact Header.isVisible_of_toStr hread c (Text.mem_of_mem_beforeChar hmem)

/-- What the proxy changes in a public request in origin form, routed to the client `clientId`. -/
theorem forwarded_request {Body : Type} {http : HttpParsers} (laws : http.Lawful)
    {req forwarded : ProxiedRequest Body} {target domain clientId path : String}
    (horigin : target.toList.head? = some '/') (htarget : http.uri target = some req.uri)
    (hroute : extractRouting req.routing domain = some (clientId, path))
    (hok : buildForwardedRequest http req path clientId = .ok forwarded) :
    forwarded.method = req.method ∧ forwarded.body = req.body ∧ forwarded.uri = req.uri ∧
      (∃ v, forwarded.headers.getAll "x-zo-tunnel-client" = [v] ∧ v.bytes = asBytes clientId) ∧
      forwarded.headers.getAll "connection" = [closeValue] ∧
      ∀ name, name ≠ "x-zo-tunnel-client" → name ≠ "connection" →
        forwarded.headers.getAll name = req.headers.getAll name := by
  obtain ⟨-, -, -, -, rfl⟩ := extractRouting_eq_some_iff.mp hroute
  obtain ⟨val, hval, hbytes⟩ := laws.visible (visible_of_extractRouting hroute)
  have hbuilt := buildForwardedRequest_of_parse (laws.again horigin htarget) hval
  obtain rfl := Except.ok.inj (hbuilt.symm.trans hok)
  refine ⟨rfl, rfl, rfl, ⟨val, ?_, hbytes⟩, ?_, ?_⟩
  · rw [HeaderMap.getAll_insert_of_ne (by decide), HeaderMap.getAll_insert_self]
  · rw [HeaderMap.getAll_insert_self]
  · intro name hclient hconnection
    rw [HeaderMap.getAll_insert_of_ne hconnection, HeaderMap.getAll_insert_of_ne hclient]

/-- The parsers at one target, with the header values of visible ASCII. -/
def HttpParsers.single (target : String) (uri : TargetUri) : HttpParsers where
  uri s := if s = target then some uri else none
  headerValue := Header.Field.ofText?

/-- They are lawful, if the target is that of its path and query. -/
theorem HttpParsers.single_lawful {target : String} {uri : TargetUri}
    (h : uri.pathAndQuery = target) : (HttpParsers.single target uri).Lawful where
  again := by
    intro s u _ hs
    obtain ⟨-, hu⟩ := Option.ite_none_right_eq_some.mp hs
    obtain rfl := Option.some.inj hu
    exact if_pos h
  visible := by
    intro s hs
    have hbytes : ∀ b ∈ asBytes s, Header.isVisibleAscii b = true := by
      rw [Header.asBytes_of_visible hs]
      intro b hb
      obtain ⟨c, hc, rfl⟩ := List.mem_map.mp hb
      exact (Header.visible_byte (hs c hc)).1
    exact ⟨_, dif_pos (List.all_eq_true.mpr hbytes), rfl⟩

/-- A request for `/api?x=1` that names another client, and keeps its connection alive. -/
def spoofedRequest : ProxiedRequest Unit where
  method := "GET"
  uri := ⟨"/api", some "x=1"⟩
  version := .http11
  headers := ⟨[("host", [⟨asBytes "app.tunnel.example.com", List.all_eq_true.mp (by decide)⟩]),
    ("x-zo-tunnel-client", [⟨asBytes "web", List.all_eq_true.mp (by decide)⟩]),
    ("connection", [⟨asBytes "keep-alive", List.all_eq_true.mp (by decide)⟩,
      ⟨asBytes "upgrade", List.all_eq_true.mp (by decide)⟩])],
    by decide, by decide⟩
  body := ()

/-- The request is forwarded to `app`, under the name `app`. -/
theorem forwarded_request_app :
    ∃ forwarded, buildForwardedRequest (.single "/api?x=1" ⟨"/api", some "x=1"⟩) spoofedRequest
        "/api" "app" = .ok forwarded ∧ forwarded.uri = ⟨"/api", some "x=1"⟩ ∧
      ∃ v, forwarded.headers.getAll "x-zo-tunnel-client" = [v] ∧ v.bytes = asBytes "app" := by
  have hroute :
      extractRouting spoofedRequest.routing "tunnel.example.com" = some ("app", "/api") := by
    decide
  have hlawful : (HttpParsers.single "/api?x=1" ⟨"/api", some "x=1"⟩).Lawful :=
    HttpParsers.single_lawful (by decide)
  obtain ⟨forwarded, hok⟩ : ∃ forwarded, buildForwardedRequest
      (.single "/api?x=1" ⟨"/api", some "x=1"⟩) spoofedRequest "/api" "app" = .ok forwarded :=
    ⟨_, rfl⟩
  have htarget : (HttpParsers.single "/api?x=1" ⟨"/api", some "x=1"⟩).uri "/api?x=1" =
      some spoofedRequest.uri := by decide
  obtain ⟨-, -, huri, hclient, -, -⟩ := forwarded_request hlawful (by decide) htarget hroute hok
  exact ⟨forwarded, hok, huri, hclient⟩

end ZoTunnel
