import ZoTunnel.Client.Connect

/-!
# What the web API lets through

The handlers of `web_server.rs` that change something: `api_connect`, `api_disconnect`, and those
for one tunnel. `require_connected!` comes first, then the checks of the fields, and then the
operation of the tunnel manager, which `Client/AppState.lean` has, or `connect`, with the arguments
that `Client/Connect.lean` has.

`vetted_iff` says which names and addresses pass the checks.
-/

namespace ZoTunnel

open TunnelManager

/-! ## The handlers -/

/-- The payload of `api_connect`. -/
structure ConnectRequest where
  server : String
  token : String
  tls : Bool
  tlsServerName : Option String
  tlsSkipVerify : Bool
  deriving DecidableEq, Repr

/-- The fields of `AddTunnelRequest` and of `UpdateTunnelRequest`. -/
structure TunnelFields where
  clientId : String
  localAddr : String
  enabled : Bool
  deriving DecidableEq, Repr

/-- A request to the web API, as its handler gets it. -/
inductive HttpCall where
  /-- `api_connect`: `save` is how the save of the credentials goes, and `config` the loaded
  config. -/
  | connect (payload : ConnectRequest) (save : Except Error Unit) (config : TunnelsConfig)
  | disconnect
  | add (fields : TunnelFields)
  | update (id : String) (fields : TunnelFields)
  | delete (id : String)
  | start (id : String)
  | stop (id : String)
  | restart (id : String)

variable (isAlphanumeric : Char → Bool)

/-- A character of a client id. `isAlphanumeric` is `char::is_alphanumeric`. -/
def isIdChar (c : Char) : Bool := isAlphanumeric c || c = '-' || c = '_'

/-- The checks of `api_add_tunnel` and `api_update_tunnel`, and the values that are taken over. -/
def checkFields (fields : TunnelFields) : Except Error (String × String) :=
  let clientId := Text.trim fields.clientId
  let localAddr := Text.trim fields.localAddr
  if clientId.isEmpty then .error "client_id is required"
  else if localAddr.isEmpty then .error "local_addr is required"
  else if !clientId.toList.all (isIdChar isAlphanumeric) then
    .error "client_id must contain only alphanumeric characters, hyphens, and underscores"
  else .ok (clientId, localAddr)

/-- The checks of `api_connect`, and the arguments that it passes to `connect`. -/
def ConnectRequest.check (payload : ConnectRequest) : Except Error ConnectArgs :=
  let server := Text.trim payload.server
  let token := Text.trim payload.token
  if server.isEmpty then .error "Server address is required"
  else if token.isEmpty then .error "Token is required"
  else .ok ⟨server, token, payload.tls, payload.tlsServerName, payload.tlsSkipVerify⟩

/-- What a handler does with a request that has passed its checks. -/
structure CheckedCall where
  request : ApiRequest
  /-- The arguments of `connect`, when it is called. -/
  args : Option ConnectArgs

/-- A call of an operation of the tunnel manager. -/
def CheckedCall.tunnel (call : Call) : CheckedCall := ⟨.tunnel call, none⟩

/-- The checks of a request, and what is left to do then. -/
def HttpCall.check : HttpCall → Except Error CheckedCall
  | .connect payload save config =>
    payload.check.map fun args => ⟨.connect save config, some args⟩
  | .disconnect => .ok ⟨.disconnect, none⟩
  | .add fields =>
    (checkFields isAlphanumeric fields).map fun (clientId, localAddr) =>
      .tunnel (.add ⟨"", clientId, localAddr, fields.enabled⟩)
  | .update id fields =>
    (checkFields isAlphanumeric fields).map fun (clientId, localAddr) =>
      .tunnel (.update id clientId localAddr fields.enabled)
  | .delete id => .ok (.tunnel (.remove id))
  | .start id => .ok (.tunnel (.start id))
  | .stop id => .ok (.tunnel (.stop id))
  | .restart id => .ok (.tunnel (.restart id))

/-- The requests that need a connection. -/
def HttpCall.needsConnection : HttpCall → Bool
  | .connect .. | .disconnect => false
  | _ => true

/-- The client, and what each of its managers has been made from. -/
structure Api where
  app : AppState
  /-- The config that a manager was created with. The code does not keep it. -/
  loaded : ℕ → TunnelsConfig

/-- The client when the web server starts. -/
def Api.new (saved : Option TunnelsConfig) : Api :=
  ⟨.new saved, fun mgr => if mgr = 0 then saved.getD ⟨[]⟩ else ⟨[]⟩⟩

/-- The first turn of a request. -/
def Api.begin (api : Api) (rid : ℕ) (call : HttpCall) : Api :=
  if call.needsConnection && api.app.inner.isNone then
    { api with
      app := api.app.setRequest rid (.returned (.error "Not connected. Please connect first.")) }
  else
    match call.check isAlphanumeric with
    | .error e => { api with app := api.app.setRequest rid (.returned (.error e)) }
    | .ok checked =>
      { app := api.app.begin rid checked.request
        loaded :=
          match checked.request with
          | .connect (.ok ()) config => Function.update api.loaded api.app.nextManager config
          | _ => api.loaded }

/-- An id is that of a tunnel in the config that a request is about to change. -/
def AppState.idTaken (s : AppState) (rid : ℕ) (newId : String) : Bool :=
  match s.requests rid with
  | .awaiting mgr (.add _) => (s.managers mgr).config.tunnels.any (·.id = newId)
  | _ => false

/-- A step of a request, with what the environment decides in it. -/
inductive ApiStep where
  | request (rid : ℕ) (call : HttpCall)
  | resume (rid : ℕ) (newId : String) (save : Except Error Unit)
  | drop (rid : ℕ)

/-- One step of a request. `generate_id` returns an id that is not in use. -/
def apiStep (api : Api) : ApiStep → Option Api
  | .request rid call =>
    match api.app.requests rid with
    | .idle => some (api.begin isAlphanumeric rid call)
    | _ => none
  | .resume rid newId save =>
    if api.app.idTaken rid newId then none
    else (appStep api.app (.resume rid newId save)).map fun app => { api with app }
  | .drop rid => (appStep api.app (.drop rid)).map fun app => { api with app }

/-! ## What the checks let through -/

/-- The values that the checks of a request let through: neither is blank or has white space around
it, and the name has only the characters of a client id. -/
structure Vetted (clientId localAddr : String) : Prop where
  name : clientId ≠ "" ∧ Text.trim clientId = clientId
  chars : ∀ c ∈ clientId.toList, isIdChar isAlphanumeric c = true
  addr : localAddr ≠ "" ∧ Text.trim localAddr = localAddr

/-- The checks let through vetted values, and all of them. -/
theorem vetted_iff {clientId localAddr : String} :
    Vetted isAlphanumeric clientId localAddr ↔
      ∃ fields, checkFields isAlphanumeric fields = .ok (clientId, localAddr) := by
  constructor
  · rintro ⟨⟨hname, htrim⟩, hchars, ⟨haddr, htrimAddr⟩⟩
    refine ⟨⟨clientId, localAddr, true⟩, ?_⟩
    have hall : clientId.toList.all (isIdChar isAlphanumeric) = true := List.all_eq_true.mpr hchars
    unfold checkFields
    dsimp only
    rw [htrim, htrimAddr, if_neg (by simpa using hname), if_neg (by simpa using haddr), hall]
    exact if_neg (by decide)
  · rintro ⟨fields, hcheck⟩
    unfold checkFields at hcheck
    dsimp only at hcheck
    split_ifs at hcheck with hname haddr hall
    obtain ⟨rfl, rfl⟩ := Prod.mk.inj (Except.ok.inj hcheck)
    rw [Bool.not_eq_true', Bool.not_eq_false] at hall
    exact ⟨⟨by simpa using hname, Text.trim_trim _⟩, List.all_eq_true.mp hall,
      ⟨by simpa using haddr, Text.trim_trim _⟩⟩

end ZoTunnel
