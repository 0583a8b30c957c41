import ZoTunnel.Lib.Run
import ZoTunnel.Lib.Bytes
import ZoTunnel.Protocol.Message
import ZoTunnel.Protocol.Frame
import ZoTunnel.Lib.Lease
import ZoTunnel.Lib.Text
import ZoTunnel.Client.ManagerRun
import ZoTunnel.Client.Orphans
import ZoTunnel.Server.Registry
import ZoTunnel.Server.Ownership
import ZoTunnel.Server.Promise
import ZoTunnel.Server.Heartbeat
import ZoTunnel.Server.Backlog
import ZoTunnel.Server.CaddyFleet
import ZoTunnel.Server.CaddyHistory
import ZoTunnel.Server.CaddyShutdown
import ZoTunnel.Server.TlsApproval
import ZoTunnel.Server.LimiterKeys
import ZoTunnel.Server.Accounting
import ZoTunnel.Client.ConfigInvariant
import ZoTunnel.Client.Backoff
import ZoTunnel.Server.DashboardRun
import ZoTunnel.Server.Visitor
import ZoTunnel.Client.Durability
import ZoTunnel.Client.PidNaming
import ZoTunnel.Lib.FixedWindow
import ZoTunnel.Server.RateLimit
import ZoTunnel.Client.ManagerEdit
import ZoTunnel.Client.Saving
import ZoTunnel.Client.Stop
import ZoTunnel.Client.Connect
import ZoTunnel.Server.HostCase
import ZoTunnel.Protocol.Version
import ZoTunnel.Protocol.SelfUpdate
import ZoTunnel.Server.Cookies
import ZoTunnel.Lib.Form
import ZoTunnel.Lib.Url
import ZoTunnel.Server.Fallback
import ZoTunnel.Server.FailedAuth
import ZoTunnel.Lib.Json
import ZoTunnel.Server.ErrorBody
import ZoTunnel.Client.Masking
import ZoTunnel.Protocol.Rewriting
import ZoTunnel.Lib.HeaderMap
import ZoTunnel.Server.Forwarding
import ZoTunnel.Lib.Pipe
import ZoTunnel.Server.StreamTypes
import ZoTunnel.Server.Traffic
import ZoTunnel.Server.PipeEnds
import ZoTunnel.Server.StreamsApart
import ZoTunnel.Lib.Reconcile
import ZoTunnel.Lib.Dom
import ZoTunnel.Client.TunnelCards
import ZoTunnel.Client.Rendering
import ZoTunnel.Server.ClientRows
import ZoTunnel.Client.Status
import ZoTunnel.Client.ManagerMoves
import ZoTunnel.Client.Listing
import ZoTunnel.Protocol.Chunks
import ZoTunnel.Lib.Preamble
import ZoTunnel.Protocol.Handshake
import ZoTunnel.Server.Opening
import ZoTunnel.Client.Api
import ZoTunnel.Client.ApiRun
import ZoTunnel.Lib.EventLoop
import ZoTunnel.Client.PageScript
import ZoTunnel.Client.PageRun
import ZoTunnel.Lib.JsonText
import ZoTunnel.Lib.Route
import ZoTunnel.Client.PageRequests
import ZoTunnel.Server.DashboardScript
import ZoTunnel.Server.DashboardPage
import ZoTunnel.Server.DashboardHistory
import ZoTunnel.Lib.CookieJar
import ZoTunnel.Server.SessionCookie
import ZoTunnel.Server.Browsers
