import ZoTunnel.Protocol.Message

/-!
# Server configuration

The parts of `ServerConfig` (`zo-tunnel-server/src/config.rs`) that the sessions and the proxy read.
-/

namespace ZoTunnel

/-- Reserved subdomains that cannot be used as client IDs. -/
def reservedSubdomains : List String := ["dashboard", "connect", "api", "www", "admin"]

/-- The tokens that clients authenticate with. -/
structure AuthConfig where
  tokens : List String
  deriving DecidableEq, Repr

/-- The server's configuration. -/
structure ServerConfig where
  publicPort : UInt16
  /-- Each client is accessible at `<client_id>.<domain>`. -/
  domain : String
  auth : AuthConfig
  deriving DecidableEq, Repr

/-- Check if a token is valid. If no tokens configured, all are accepted. -/
def ServerConfig.validateToken (config : ServerConfig) (token : String) : Bool :=
  if config.auth.tokens.isEmpty then true else config.auth.tokens.any (· == token)

end ZoTunnel
