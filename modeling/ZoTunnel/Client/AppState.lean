import ZoTunnel.Client.TunnelManager

/-!
# The client's web server

`AppState` (`web_server.rs`) and the requests that share it. `inner` holds the tunnel manager, from
a connect to the next disconnect. A manager is an `Arc`: a request that has cloned it keeps it after
`inner` has let it go. So a manager is a number here, and `managers` has the managers of all
numbers.

A request takes turns with the others at its await points, and on the multi-threaded runtime also
between the check and the insertion of `start_tunnel_internal`. At an await point it can be dropped,
when the browser closes the connection. What a request checks before it looks at `inner` is left
out: the requests here are those that pass.
-/

namespace ZoTunnel

open TunnelManager

/-- How far a request has come, between its turns. -/
inductive RequestState where
  /-- There is no request under this number yet. -/
  | idle
  /-- A connect that has created a manager, and waits for the lock of its config in `start_all`. -/
  | startingAll (mgr : ℕ)
  /-- A connect that has started all tunnels, and waits for the lock of `inner`. -/
  | installing (mgr : ℕ)
  /-- A request for a tunnel at an await point. -/
  | awaiting (mgr : ℕ) (point : Await)
  /-- A request for a tunnel in `start_tunnel_internal`, after the check. -/
  | inserting (mgr : ℕ) (entry : TunnelEntry) (result : Option TunnelEntry)
  | returned (result : Returned)
  | dropped
  deriving DecidableEq

/-- The manager that a connect is about to put into `inner`. -/
def RequestState.building : RequestState → Option ℕ
  | .startingAll mgr | .installing mgr => some mgr
  | _ => none

/-- The manager that a request in progress holds. -/
def RequestState.mgr : RequestState → Option ℕ
  | .startingAll mgr | .installing mgr | .awaiting mgr _ | .inserting mgr _ _ => some mgr
  | .idle | .returned _ | .dropped => none

/-- The state that the handlers share, and the requests. -/
structure AppState where
  /-- The manager, once the user has connected. -/
  inner : Option ℕ
  managers : ℕ → TunnelManager
  /-- The number of the next manager. -/
  nextManager : ℕ
  tasks : Tasks
  requests : ℕ → RequestState

namespace AppState

variable (s : AppState)

/-- Replace a manager and the tasks. -/
def setManager (mgr : ℕ) (state : TunnelManager × Tasks) : AppState :=
  { s with managers := Function.update s.managers mgr state.1, tasks := state.2 }

/-- Move a request on. -/
def setRequest (rid : ℕ) (request : RequestState) : AppState :=
  { s with requests := Function.update s.requests rid request }

/-- `AppState::new` without credentials. -/
def disconnected : AppState := ⟨none, fun _ => .new ⟨[]⟩, 0, .new, fun _ => .idle⟩

/-- `TunnelManager::new`: the manager has the next number. -/
def newManager (config : TunnelsConfig) : AppState :=
  { s with
    managers := Function.update s.managers s.nextManager (.new config)
    nextManager := s.nextManager + 1 }

/-- Start all enabled tunnels of a manager. -/
def startAll (mgr : ℕ) : AppState := s.setManager mgr ((s.managers mgr).startAll s.tasks)

/-- The state when the web server starts. With saved credentials there is a manager, and its tunnels
have been started. -/
def new : Option TunnelsConfig → AppState
  | none => disconnected
  | some config => { (disconnected.newManager config).startAll 0 with inner := some 0 }

/-- Disconnect: stop all tunnels. -/
def disconnect : AppState :=
  match s.inner with
  | some mgr => { s.setManager mgr ((s.managers mgr).stopAll s.tasks) with inner := none }
  | none => s

end AppState

/-- A request to the web server. -/
inductive ApiRequest where
  /-- Connect: `save` is how the save of the credentials goes, and `config` the loaded config. -/
  | connect (save : Except Error Unit) (config : TunnelsConfig)
  | disconnect
  /-- A request for a tunnel. -/
  | tunnel (call : Call)

/-- A step of a request, with what the environment decides in it. -/
inductive AppStep where
  /-- The request has the lock of `inner`. -/
  | request (rid : ℕ) (request : ApiRequest)
  /-- The request goes on. -/
  | resume (rid : ℕ) (newId : String) (save : Except Error Unit)
  /-- The request is dropped at an await point. -/
  | drop (rid : ℕ)

/-- The state of a request after its turn, on a manager that is now `m`. It ends in
`start_tunnel_internal` when this passes the check. -/
def RequestState.after (mgr : ℕ) (m : TunnelManager) : Progress → RequestState
  | .awaiting point => .awaiting mgr point
  | .returned result => .returned result
  | .starting entry result =>
    match m.checkStart entry with
    | .ok () => .inserting mgr entry result
    | .error e => .returned (.error e)

/-- The first turn of a request. -/
def AppState.begin (s : AppState) (rid : ℕ) : ApiRequest → AppState
  | .connect save config =>
    -- Disconnect first if already connected.
    let s := s.disconnect
    match save with
    | .error e => s.setRequest rid (.returned (.error e))
    | .ok () => (s.newManager config).setRequest rid (.startingAll s.nextManager)
  | .disconnect => s.disconnect.setRequest rid (.returned (.ok none))
  | .tunnel call =>
    match s.inner with
    | none => s.setRequest rid (.returned (.error "Not connected. Please connect first."))
    | some mgr =>
      match (s.managers mgr).begin s.tasks call with
      | (state, progress) => (s.setManager mgr state).setRequest rid (.after mgr state.1 progress)

/-- One step of a request. -/
def appStep (s : AppState) (l : AppStep) : Option AppState :=
  match l with
  | .request rid request =>
    match s.requests rid with
    | .idle => some (s.begin rid request)
    | _ => none
  | .resume rid newId save =>
    match s.requests rid with
    | .startingAll mgr => some ((s.startAll mgr).setRequest rid (.installing mgr))
    | .installing mgr => some ({ s with inner := some mgr }.setRequest rid (.returned (.ok none)))
    | .awaiting mgr point =>
      match (s.managers mgr).resume newId save point with
      | (m, progress) =>
        some ((s.setManager mgr (m, s.tasks)).setRequest rid (.after mgr m progress))
    | .inserting mgr entry result =>
      some ((s.setManager mgr ((s.managers mgr).insertStarted s.tasks entry)).setRequest rid
        (.returned (.ok result)))
    | _ => none
  | .drop rid =>
    match s.requests rid with
    | .startingAll _ | .installing _ | .awaiting _ _ => some (s.setRequest rid .dropped)
    | _ => none

end ZoTunnel
