import ZoTunnel.Lib.EventLoop
import ZoTunnel.Lib.Text
import ZoTunnel.Server.ClientRows

/-!
# The script of the dashboard's page

What `web/app.js` does besides the clients table (`Server/ClientRows.lean`): the two screens, the
login, and the refresh of what is shown. A refresh sends three requests at once, and shows their
data when all three are there. Each reply comes by itself, and a reply with the status 401 shows the
login whether or not its refresh still waits for it.
-/

namespace ZoTunnel.DashboardPage

open Dom Reconcile

/-! ## Replies -/

/-- What the page reads of `/api/auth/check`. -/
structure AuthCheck where
  authenticated : Bool
  authRequired : Bool
  tlsEnabled : Bool
  deriving DecidableEq, Repr

/-- What the page reads of `/api/login`. -/
structure LoginReply where
  success : Bool
  message : String
  deriving DecidableEq, Repr

/-- What the page reads of `/api/status`. -/
structure StatusReply where
  connectedClients : ℕ
  deriving DecidableEq, Repr

/-- What the page reads of `/api/metrics`. -/
structure MetricsReply where
  uptimeSecs : ℕ
  totalRequests : ℕ
  activeConnections : ℕ
  totalBytesIn : ℕ
  totalBytesOut : ℕ
  failedAuth : ℕ
  rateLimited : ℕ
  deriving DecidableEq, Repr

/-- What `fetchJSON` comes to. -/
inductive Fetched (α : Type) where
  | unauthorized
  /-- The message of what is thrown: by `fetch`, for the status, or for the JSON. -/
  | failed (message : String)
  | ok (data : α)

/-- The replies to the requests of a refresh. -/
structure Snapshot where
  status : StatusReply
  clients : ClientList
  metrics : MetricsReply

/-- A refresh: the replies that have come, and whether `Promise.all` has been rejected. -/
structure Refresh where
  status : Option StatusReply
  clients : Option ClientList
  metrics : Option MetricsReply
  rejected : Bool

/-- A refresh that waits for its replies. -/
def Refresh.new : Refresh := ⟨none, none, none, false⟩

/-- What `Promise.all` comes to, when that is all three replies. -/
def Refresh.snapshot (r : Refresh) : Option Snapshot :=
  if r.rejected then none
  else do
    let status ← r.status
    let clients ← r.clients
    let metrics ← r.metrics
    return ⟨status, clients, metrics⟩

/-! ## The page -/

/-- What an interval does. -/
inductive Ticker where
  | refresh
  deriving DecidableEq, Repr

/-- The requests of a refresh. -/
inductive Part where
  | status
  | clients
  | metrics
  deriving DecidableEq, Repr

/-- What a handler waits for. -/
inductive Job where
  | checkAuth
  | login
  | logout
  /-- A request of a refresh. -/
  | fetch (call : ℕ) (part : Part)
  deriving DecidableEq, Repr

/-- A request that changes something. -/
inductive Sent where
  | login (token : String)
  | logout
  deriving DecidableEq, Repr

/-- The badge beside the title. -/
inductive Badge where
  | connecting
  | online
  | offline
  deriving DecidableEq, Repr

/-- Which screens are displayed. -/
structure Screens where
  login : Bool
  dashboard : Bool
  deriving DecidableEq, Repr

/-- The uptime and the numbers above the table. -/
structure Stats where
  uptime : String
  clients : String
  requests : String
  active : String
  data : String
  failedAuth : String
  rateLimited : String
  deriving DecidableEq, Repr

/-- What is shown of the replies of a refresh. -/
def Snapshot.stats (N : Numbers) (s : Snapshot) : Stats where
  uptime := "Uptime: " ++ formatDuration s.metrics.uptimeSecs
  clients := toString s.status.connectedClients
  requests := formatNumber N s.metrics.totalRequests
  active := toString s.metrics.activeConnections
  data := formatBytes N (s.metrics.totalBytesIn + s.metrics.totalBytesOut)
  failedAuth := toString s.metrics.failedAuth
  rateLimited := toString s.metrics.rateLimited

/-- The page. -/
structure Page where
  loop : EventLoop Ticker Job
  screens : Screens
  refreshInterval : Option ℕ
  /-- The refreshes by their number, and the number of the next one. -/
  refreshes : ℕ → Refresh
  next : ℕ
  tlsWarning : Bool
  token : String
  loginError : String
  loginDisabled : Bool
  badge : Badge
  stats : Stats
  table : Parent (Node Empty)
  sent : List Sent

/-- The page when it is loaded and `checkAuth` waits for its reply. -/
def Page.load : Page where
  loop := EventLoop.new.await .checkAuth
  screens := ⟨true, false⟩
  refreshInterval := none
  refreshes _ := .new
  next := 0
  tlsWarning := true
  token := ""
  loginError := ""
  loginDisabled := false
  badge := .connecting
  stats := ⟨"—", "0", "0", "0", "0 B", "0", "0"⟩
  table := initialBody
  sent := []

namespace Page

variable (p : Page)

/-- The three requests of a refresh are sent. -/
def refresh : Page :=
  { p with
    loop := ((p.loop.await (.fetch p.next .status)).await (.fetch p.next .clients)).await
      (.fetch p.next .metrics)
    refreshes := Function.update p.refreshes p.next .new
    next := p.next + 1 }

def showLogin : Page :=
  let p := { p with screens := ⟨true, false⟩ }
  match p.refreshInterval with
  | some id => { p with loop := p.loop.clearInterval id, refreshInterval := none }
  | none => p

def showDashboard : Page :=
  let p := { p with screens := ⟨false, true⟩ }.refresh
  let loop := match p.refreshInterval with
    | some id => p.loop.clearInterval id
    | none => p.loop
  { p with loop := loop.setInterval .refresh, refreshInterval := some loop.next }

/-- The rest of `checkAuth`. There is no reply when the server cannot be reached. -/
def authChecked (reply : Option AuthCheck) : Page :=
  match reply with
  | some data =>
    let p := { p with tlsWarning := !data.tlsEnabled }
    if !data.authRequired || data.authenticated then p.showDashboard else p.showLogin
  | none => p.showLogin

/-- `handleLogin`. -/
def handleLogin : Page :=
  let token := Text.trimJs p.token
  if token = "" then { p with loginError := "Please enter your admin token" }
  else
    { p with
      loop := p.loop.await .login
      loginDisabled := true
      loginError := ""
      sent := .login token :: p.sent }

/-- The rest of it. -/
def loggedIn (reply : Option LoginReply) : Page :=
  let p := match reply with
    | some data =>
      if data.success then { p with token := "" }.showDashboard
      else
        { p with loginError := if data.message = "" then "Login failed" else data.message }
    | none => { p with loginError := "Connection error. Please try again." }
  { p with loginDisabled := false }

/-- `handleLogout`. -/
def handleLogout : Page :=
  { p with loop := p.loop.await .logout, sent := .logout :: p.sent }

/-! ## A refresh -/

/-- The `catch` of a refresh. -/
def caught (message : String) : Page :=
  if message = "Unauthorized" then p else { p with badge := .offline }

/-- `Promise.all` is rejected, unless it has been before. -/
def reject (call : ℕ) (message : String) : Page :=
  let r := p.refreshes call
  if r.rejected then p
  else
    { p with refreshes := Function.update p.refreshes call { r with rejected := true } }.caught
      message

variable (N : Numbers) (elementMembers : String → Bool)

/-- The clients table is brought up to date to its end: no row throws. -/
def showsAll (clients : List ClientItem) : Bool :=
  let tbody := if hasEmptyRow p.table then replaceChildren [] else p.table
  clients = [] || ((clientView N).reconcile (inherited elementMembers) tbody clients).isOk

/-- The rest of a refresh whose replies are there. What the table throws is a `TypeError`. -/
def showSnapshot (s : Snapshot) : Page :=
  { p with
    badge := if p.showsAll N elementMembers s.clients.clients then .online else .offline
    stats := s.stats N
    table := DashboardPage.refresh N elementMembers p.table s.clients.clients }

/-- The reply to a request of a refresh, which `put` adds to those that have come. -/
def fetched {α : Type} (call : ℕ) (put : α → Refresh → Refresh) (reply : Fetched α) : Page :=
  match reply with
  | .unauthorized => p.showLogin.reject call "Unauthorized"
  | .failed message => p.reject call message
  | .ok data =>
    let r := put data (p.refreshes call)
    let p := { p with refreshes := Function.update p.refreshes call r }
    match r.snapshot with
    | some s => p.showSnapshot N elementMembers s
    | none => p

end Page

/-! ## Events -/

/-- A reply, with the job that has waited for it. -/
inductive Replied where
  | checkAuth (reply : Option AuthCheck)
  | login (reply : Option LoginReply)
  | logout
  | status (call : ℕ) (reply : Fetched StatusReply)
  | clients (call : ℕ) (reply : Fetched ClientList)
  | metrics (call : ℕ) (reply : Fetched MetricsReply)

/-- The job. -/
def Replied.job : Replied → Job
  | .checkAuth _ => .checkAuth
  | .login _ => .login
  | .logout => .logout
  | .status call _ => .fetch call .status
  | .clients call _ => .fetch call .clients
  | .metrics call _ => .fetch call .metrics

/-- What happens to the page. -/
inductive PageEvent where
  /-- The user changes the token. -/
  | type (token : String)
  | submitLogin
  | logout
  | replied (reply : Replied)
  /-- An interval runs. -/
  | tick (id : ℕ)

variable (N : Numbers) (elementMembers : String → Bool)

/-- The rest of a handler, when its job has been settled. -/
def Page.resume (p : Page) : Replied → Page
  | .checkAuth reply => p.authChecked reply
  | .login reply => p.loggedIn reply
  | .logout => p.showLogin
  | .status call reply =>
    p.fetched N elementMembers call (fun status r => { r with status := some status }) reply
  | .clients call reply =>
    p.fetched N elementMembers call (fun clients r => { r with clients := some clients }) reply
  | .metrics call reply =>
    p.fetched N elementMembers call (fun metrics r => { r with metrics := some metrics }) reply

/-- One event. The form cannot be submitted while its button is disabled. -/
def dashboardPageStep (p : Page) : PageEvent → Option Page
  | .type token => some { p with token }
  | .submitLogin => if p.loginDisabled then none else some p.handleLogin
  | .logout => some p.handleLogout
  | .replied reply =>
    if reply.job ∈ p.loop.jobs then
      some ({ p with loop := p.loop.settle reply.job }.resume N elementMembers reply)
    else none
  | .tick id => (p.loop.intervals id).map fun _ => p.refresh

end ZoTunnel.DashboardPage
