import ZoTunnel.Lib.Text
import ZoTunnel.Server.Registry

/-!
# HTTP reverse proxy

The pure parts of `zo-tunnel-server/src/proxy.rs`: how a public request names its client, and the
responses that the proxy writes itself. The steps of `handle_proxy_request` are in
`Server/Session.lean`, with the sessions that they run beside.
-/

namespace ZoTunnel

/-- The parts of a public request that routing reads. -/
structure HttpRequest where
  /-- The `host` header, when it is there and `to_str` reads it. -/
  host : Option String
  path : String
  deriving DecidableEq, Repr

/-- A response that the proxy writes itself. -/
structure Response where
  status : ℕ
  body : String
  deriving DecidableEq, Repr

/-- `error_response`: the message is put into the JSON text as it is. -/
def errorResponse (status : ℕ) (msg : String) : Response :=
  ⟨status, "\x7b\"error\":\"" ++ msg ++ "\",\"status\":" ++ toString status ++ "\x7d"⟩

/-- Extract client_id and forwarded path from an HTTP request.
Uses subdomain routing: `<client_id>.<domain>` → (client_id, original_path). -/
def extractRouting (req : HttpRequest) (domain : String) : Option (String × String) := do
  let host ← req.host
  let hostNoPort := Text.beforeChar ':' host
  let clientId ← Text.stripSuffix hostNoPort ("." ++ domain)
  if clientId.isEmpty then none else some (clientId, req.path)

/-- The response to a request with no valid subdomain, which names the connected clients. -/
def noRouteResponse (clients : List ClientInfo) (domain : String) : Response :=
  if clients.isEmpty then errorResponse 503 "No tunnel clients connected"
  else
    let clientList := clients.map fun c => c.clientId ++ "." ++ domain
    errorResponse 404 ("Invalid subdomain. Available tunnels: " ++ ", ".intercalate clientList)

/-- A port in the host is ignored, and the client id is what stands before the domain. -/
example : extractRouting ⟨some "webapp.tunnel.zobite.com:6210", "/"⟩ "tunnel.zobite.com" =
    some ("webapp", "/") := by decide

end ZoTunnel
