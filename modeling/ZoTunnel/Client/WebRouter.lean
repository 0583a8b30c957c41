import ZoTunnel.Client.Api
import ZoTunnel.Lib.JsonText
import ZoTunnel.Lib.Route

/-!
# The routes of the web API

`create_router` of `web_server.rs`, and what its extractors read from a request: the id in the path,
and the payload in the body. `receive` is the call that a handler gets, as `HttpCall` of
`Client/Api.lean` has it.

What is not of this repository is a parameter, `Web`: the browser, which resolves the path of a
request, the router, and the extractor of a payload. `Web.Lawful` is what their documentation says.
-/

namespace ZoTunnel

namespace WebApi

open Percent (path segments resolveDots isSegmentChar)
open Route (Table Router hits match?)

/-- The methods of the routes. -/
inductive Method where
  | get
  | post
  | put
  | delete
  deriving DecidableEq, Repr

/-- The handlers. -/
inductive Handler where
  | uiHtml
  | uiCss
  | uiJs
  | apiConnect
  | apiDisconnect
  | apiListTunnels
  | apiAddTunnel
  | apiUpdateTunnel
  | apiDeleteTunnel
  | apiStartTunnel
  | apiStopTunnel
  | apiRestartTunnel
  | apiStatus
  | apiUpgradeCheck
  | apiUpgrade
  deriving DecidableEq, Repr

/-- `create_router`. -/
def createRouter : Table Method Handler :=
  [("/", .get, .uiHtml),
    ("/style.css", .get, .uiCss),
    ("/app.js", .get, .uiJs),
    ("/api/connect", .post, .apiConnect),
    ("/api/disconnect", .post, .apiDisconnect),
    ("/api/tunnels", .get, .apiListTunnels),
    ("/api/tunnels", .post, .apiAddTunnel),
    ("/api/tunnels/:id", .put, .apiUpdateTunnel),
    ("/api/tunnels/:id", .delete, .apiDeleteTunnel),
    ("/api/tunnels/:id/start", .post, .apiStartTunnel),
    ("/api/tunnels/:id/stop", .post, .apiStopTunnel),
    ("/api/tunnels/:id/restart", .post, .apiRestartTunnel),
    ("/api/status", .get, .apiStatus),
    ("/api/upgrade/check", .get, .apiUpgradeCheck),
    ("/api/upgrade", .post, .apiUpgrade)]

/-! ## Payloads -/

section

variable (members : List (String × Json))

/-- A field that must be there. -/
def field {α : Type} (read : Json → Option α) (name : String) : Option α :=
  (members.lookup name).bind read

/-- A field that may be missing. -/
def fieldOr {α : Type} (value : α) (read : Json → Option α) (name : String) : Option α :=
  match members.lookup name with
  | none => some value
  | some json => read json

/-- A string. -/
def asString : Json → Option String
  | .str s => some s
  | _ => none

/-- A truth value. -/
def asBool : Json → Option Bool
  | .bool b => some b
  | _ => none

/-- A string that may be null. -/
def asStringOption : Json → Option (Option String)
  | .null => some none
  | json => (asString json).map some

/-- The payload of `api_connect`. -/
def connectRequest : Option ConnectRequest := do
  some {
    server := ← field members asString "server"
    token := ← field members asString "token"
    tls := ← fieldOr members false asBool "tls"
    tlsServerName := ← fieldOr members none asStringOption "tls_server_name"
    tlsSkipVerify := ← fieldOr members false asBool "tls_skip_verify" }

/-- The payload of `api_add_tunnel`. -/
def addTunnelRequest : Option TunnelFields := do
  some {
    clientId := ← field members asString "client_id"
    localAddr := ← field members asString "local_addr"
    enabled := ← fieldOr members true asBool "enabled" }

/-- The payload of `api_update_tunnel`. -/
def updateTunnelRequest : Option TunnelFields := do
  some {
    clientId := ← field members asString "client_id"
    localAddr := ← field members asString "local_addr"
    enabled := ← field members asBool "enabled" }

end

/-! ## Requests -/

/-- A request. -/
structure Request where
  method : Method
  path : String
  /-- Whether it says that its body is JSON. -/
  isJson : Bool
  body : String
  deriving DecidableEq, Repr

/-- Why no handler gets a request. -/
inductive Rejection where
  | route (miss : Route.Miss)
  | pathParams
  | unsupportedMediaType
  | tooLarge
  | syntaxError
  | dataError
  deriving DecidableEq, Repr

/-- The default limit of a body, in bytes. -/
def bodyLimit : ℕ := 2097152

/-- The limit of a path, in bytes. -/
def pathLimit : ℕ := 65534

/-- What reads a payload from a request. -/
abbrev Extractor (α : Type) := Request → Except Rejection α

/-- What the `Json` extractor says about the objects whose members are strings and truth values. -/
structure Extractor.Reads {α : Type} (extractor : Extractor α)
    (ofMembers : List (String × Json) → Option α) : Prop where
  /-- It reads the fields of an object that has each once, from a body that is JSON and not too
  large. -/
  ok : ∀ request members a, request.isJson = true → request.body.utf8ByteSize ≤ bodyLimit →
    Json.parse request.body = some (.obj members) → Json.FlatMembers members →
    (members.map Prod.fst).Nodup → ofMembers members = some a → extractor request = .ok a
  /-- It rejects a body that is too large. -/
  error : ∀ request, bodyLimit < request.body.utf8ByteSize →
    ∃ rejection, extractor request = .error rejection

/-- What a request goes through that is not of this repository. -/
structure Web where
  /-- The path that the browser asks for. -/
  resolve : String → String
  router : Router Method Handler
  connect : Extractor ConnectRequest
  addTunnel : Extractor TunnelFields
  updateTunnel : Extractor TunnelFields

/-- What is documented about it. -/
structure Web.Lawful (web : Web) : Prop where
  /-- The browser resolves the dots of a path whose other characters it leaves as they are. -/
  resolve : ∀ l, l ≠ [] → l.head? ≠ some "" →
    (∀ s ∈ l, ∀ c ∈ s.toList, isSegmentChar c = true) →
    web.resolve (path l) = path (resolveDots [] l)
  router : web.router.Serves pathLimit createRouter
  connect : web.connect.Reads connectRequest
  addTunnel : web.addTunnel.Reads addTunnelRequest
  updateTunnel : web.updateTunnel.Reads updateTunnelRequest

/-- What a handler gets. -/
inductive Call where
  | connect (payload : ConnectRequest)
  | disconnect
  | add (payload : TunnelFields)
  | update (id : String) (payload : TunnelFields)
  | delete (id : String)
  | start (id : String)
  | stop (id : String)
  | restart (id : String)
  | upgrade
  /-- A request for a file or for data. -/
  | show (handler : Handler)
  deriving DecidableEq, Repr

/-- The `Path` extractor. -/
def pathId : List String → Except Rejection String
  | [id] => .ok id
  | _ => .error .pathParams

/-- What a handler's extractors read. -/
def Handler.extract (web : Web) (params : List String) (request : Request) :
    Handler → Except Rejection Call
  | .apiConnect => (web.connect request).map .connect
  | .apiDisconnect => .ok .disconnect
  | .apiAddTunnel => (web.addTunnel request).map .add
  | .apiUpdateTunnel => do
    let id ← pathId params
    (web.updateTunnel request).map (.update id)
  | .apiDeleteTunnel => (pathId params).map .delete
  | .apiStartTunnel => (pathId params).map .start
  | .apiStopTunnel => (pathId params).map .stop
  | .apiRestartTunnel => (pathId params).map .restart
  | .apiUpgrade => .ok .upgrade
  | handler => .ok (.show handler)

/-- What a request comes to. -/
def receive (web : Web) (request : Request) : Except Rejection Call :=
  match web.router request.method request.path with
  | .error miss => .error (.route miss)
  | .ok (handler, params) => handler.extract web params request

/-- The call as `Client/Api.lean` has it, for those which change a tunnel or the connection. -/
def Call.httpCall? (save : Except Error Unit) (config : TunnelsConfig) : Call → Option HttpCall
  | .connect payload => some (.connect payload save config)
  | .disconnect => some .disconnect
  | .add payload => some (.add payload)
  | .update id payload => some (.update id payload)
  | .delete id => some (.delete id)
  | .start id => some (.start id)
  | .stop id => some (.stop id)
  | .restart id => some (.restart id)
  | .upgrade | .show _ => none

/-! ## What the routes take -/

variable {web : Web} {request : Request}

/-- A call comes from a route that takes the request. -/
theorem Web.Lawful.exists_hit (h : web.Lawful) {call : Call}
    (hok : receive web request = .ok call) :
    ∃ hit ∈ hits createRouter (segments request.path), ∃ handler texts,
      hit.1.2 = (request.method, handler) ∧ hit.2.mapM Percent.decode? = some texts ∧
        handler.extract web texts request = .ok call := by
  unfold receive at hok
  cases hrouter : web.router request.method request.path with
  | error miss =>
    rw [hrouter] at hok
    cases hok
  | ok answer =>
    obtain ⟨handler, texts⟩ := answer
    rw [hrouter] at hok
    obtain ⟨hit, hmem, hroute, hdecode⟩ := h.router.exists_hit hrouter
    exact ⟨hit, hmem, handler, texts, hroute, hdecode, hok⟩

/-- If the routes that take a path have one pattern, and each method once, the one with the
method of a request gets it. -/
theorem Web.Lawful.receive_eq (h : web.Lawful) (hlimit : request.path.utf8ByteSize ≤ pathLimit)
    (hfull : "" ∉ segments request.path) {hit : (String × Method × Handler) × List String}
    {texts : List String} (hmem : hit ∈ hits createRouter (segments request.path))
    (honly : ∀ other ∈ hits createRouter (segments request.path),
      other.1.1 = hit.1.1 ∧ (other.1.2.1 = hit.1.2.1 → other.1.2.2 = hit.1.2.2))
    (hmethod : hit.1.2.1 = request.method) (hdecode : hit.2.mapM Percent.decode? = some texts) :
    receive web request = hit.1.2.2.extract web texts request := by
  unfold receive
  rw [← hmethod, h.router.eq_ok hlimit hfull hmem honly hdecode]

/-- The patterns. -/
theorem patterns_createRouter :
    createRouter.map (fun route => (Route.pattern route.1, route)) =
      [([.lit ""], "/", .get, .uiHtml),
        ([.lit "style.css"], "/style.css", .get, .uiCss),
        ([.lit "app.js"], "/app.js", .get, .uiJs),
        ([.lit "api", .lit "connect"], "/api/connect", .post, .apiConnect),
        ([.lit "api", .lit "disconnect"], "/api/disconnect", .post, .apiDisconnect),
        ([.lit "api", .lit "tunnels"], "/api/tunnels", .get, .apiListTunnels),
        ([.lit "api", .lit "tunnels"], "/api/tunnels", .post, .apiAddTunnel),
        ([.lit "api", .lit "tunnels", .param], "/api/tunnels/:id", .put, .apiUpdateTunnel),
        ([.lit "api", .lit "tunnels", .param], "/api/tunnels/:id", .delete, .apiDeleteTunnel),
        ([.lit "api", .lit "tunnels", .param, .lit "start"], "/api/tunnels/:id/start", .post,
          .apiStartTunnel),
        ([.lit "api", .lit "tunnels", .param, .lit "stop"], "/api/tunnels/:id/stop", .post,
          .apiStopTunnel),
        ([.lit "api", .lit "tunnels", .param, .lit "restart"], "/api/tunnels/:id/restart", .post,
          .apiRestartTunnel),
        ([.lit "api", .lit "status"], "/api/status", .get, .apiStatus),
        ([.lit "api", .lit "upgrade", .lit "check"], "/api/upgrade/check", .get, .apiUpgradeCheck),
        ([.lit "api", .lit "upgrade"], "/api/upgrade", .post, .apiUpgrade)] := by
  decide

/-- What takes the path of a tunnel. -/
theorem hits_tunnel (e : String) :
    hits createRouter ["api", "tunnels", e] =
      [(("/api/tunnels/:id", .put, .apiUpdateTunnel), [e]),
        (("/api/tunnels/:id", .delete, .apiDeleteTunnel), [e])] := by
  unfold hits
  rw [patterns_createRouter]
  simp [match?]

/-- What takes the path of an action. -/
theorem hits_action (e : String) {action : String} {handler : Handler}
    (hmem : (action, handler) ∈ [("start", Handler.apiStartTunnel), ("stop", .apiStopTunnel),
      ("restart", .apiRestartTunnel)]) :
    hits createRouter ["api", "tunnels", e, action] =
      [(("/api/tunnels/:id/" ++ action, .post, handler), [e])] := by
  unfold hits
  rw [patterns_createRouter]
  simp only [List.mem_cons, Prod.mk.injEq, List.not_mem_nil, or_false] at hmem
  rcases hmem with ⟨rfl, rfl⟩ | ⟨rfl, rfl⟩ | ⟨rfl, rfl⟩
  · simp [match?]
  · simp [match?]
  · simp [match?]

/-! ## Such a parameter -/

/-- An extractor. -/
def jsonExtractor {α : Type} (ofMembers : List (String × Json) → Option α) : Extractor α :=
  fun request =>
    if !request.isJson then .error .unsupportedMediaType
    else if bodyLimit < request.body.utf8ByteSize then .error .tooLarge
    else
      match Json.parse request.body with
      | none => .error .syntaxError
      | some (.obj members) =>
        match ofMembers members with
        | none => .error .dataError
        | some a => .ok a
      | some _ => .error .dataError

/-- It reads what it has to. -/
theorem jsonExtractor_reads {α : Type} (ofMembers : List (String × Json) → Option α) :
    (jsonExtractor ofMembers).Reads ofMembers where
  ok := by
    intro request members a hjson hsize hparse _ _ ha
    unfold jsonExtractor
    rw [hjson, if_neg (by decide), if_neg (Nat.not_lt.mpr hsize), hparse]
    dsimp only
    rw [ha]
  error := by
    intro request hsize
    unfold jsonExtractor
    cases request.isJson with
    | false => exact ⟨_, rfl⟩
    | true => exact ⟨_, if_pos hsize⟩

/-- The browser as the URL standard has it, the first route that takes a request, and such
extractors. -/
def tableWeb : Web where
  resolve := Percent.resolve
  router := Route.tableRouter createRouter
  connect := jsonExtractor connectRequest
  addTunnel := jsonExtractor addTunnelRequest
  updateTunnel := jsonExtractor updateTunnelRequest

/-- It does what is documented. -/
theorem tableWeb_lawful : tableWeb.Lawful where
  resolve := fun _ hne _ hchars => Percent.resolve_path hne hchars
  router := Route.tableRouter_serves pathLimit createRouter
  connect := jsonExtractor_reads connectRequest
  addTunnel := jsonExtractor_reads addTunnelRequest
  updateTunnel := jsonExtractor_reads updateTunnelRequest

end WebApi

end ZoTunnel
