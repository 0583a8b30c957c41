import ZoTunnel.Client.Api
import ZoTunnel.Client.TunnelCards
import ZoTunnel.Lib.EventLoop

/-!
# The script of the client's page

What `web/client/app.js` does besides rendering (`Client/Rendering.lean`): the three screens, the
polling, the dialogs, and the requests that the buttons send. Each handler runs to its `await`, and
the rest of it when the reply is there. So between the two anything else can happen, and replies can
come in another order than their requests were sent.

A card's buttons are those of a tunnel of some list that has been rendered. Which of them are on the
page is left out here: a click may be for any tunnel that has been listed.
-/

namespace ZoTunnel

namespace ClientPage

/-! ## The page -/

/-- What `api` comes to: the reply of the client's server, unless `fetch` or `json` has failed. -/
inductive Reply (α : Type) where
  | failed
  | refused (error : Option String)
  | ok (data : α)
  deriving DecidableEq, Repr

/-- The data of `/api/status`. -/
structure StatusInfo where
  version : String
  connected : Bool
  server : Option String
  totalTunnels : ℕ
  runningTunnels : ℕ
  deriving DecidableEq, Repr

/-- The data of `/api/upgrade/check`. -/
structure UpgradeCheckInfo where
  current : String
  latest : String
  upgradeAvailable : Bool
  deriving DecidableEq, Repr

/-- What an interval does. -/
inductive Ticker where
  | refreshDashboard
  /-- The interval of `pollRestartAndReload`. -/
  | poll
  deriving DecidableEq, Repr

/-- The buttons that are disabled while their request is under way. -/
inductive Button where
  | connect
  | disconnect
  | submit
  | delete
  | retry
  deriving DecidableEq, Repr

/-- What a handler waits for. -/
inductive Job where
  | init
  | checkForUpgrades
  | refreshDashboard
  | connect
  | disconnect
  | submit
  | delete
  | retry
  | actionTunnel
  | upgrade
  /-- The request of an interval of `pollRestartAndReload`. -/
  | poll (id : ℕ)
  /-- `setTimeout` of `refreshDashboard`. -/
  | refreshLater
  /-- `setTimeout` of `pollRestartAndReload`. -/
  | pollLater
  /-- `setTimeout` of the reload. -/
  | reloadLater
  deriving DecidableEq, Repr

/-- The button whose request is waited for. -/
def Job.button : Job → Option Button
  | .connect => some .connect
  | .disconnect => some .disconnect
  | .submit => some .submit
  | .delete => some .delete
  | .retry => some .retry
  | _ => none

/-- What the buttons of a card start: `actionTunnel` with these words. -/
inductive CardAction where
  | start
  | stop
  | restart
  deriving DecidableEq, Repr

/-- The word. -/
def CardAction.text : CardAction → String
  | .start => "start"
  | .stop => "stop"
  | .restart => "restart"

/-- A request that changes something. -/
inductive Sent where
  | connect (server token : String)
  | disconnect
  /-- `POST /api/tunnels`. -/
  | add (fields : TunnelFields)
  /-- `PUT /api/tunnels/:id`. -/
  | update (id : String) (fields : TunnelFields)
  /-- `DELETE /api/tunnels/:id`. -/
  | delete (id : String)
  /-- `POST /api/tunnels/:id/:action`. -/
  | action (id : String) (action : CardAction)
  | upgrade
  deriving DecidableEq, Repr

/-- The dialog in which a tunnel is added or edited. -/
structure Modal where
  active : Bool
  title : String
  submit : String
  id : String
  clientId : String
  localAddr : String
  enabled : Bool
  error : String
  deriving DecidableEq, Repr

/-- The dialog in which a tunnel is deleted. -/
structure DeleteDialog where
  active : Bool
  name : String
  error : String
  deriving DecidableEq, Repr

/-- Which screens are displayed. -/
structure Screens where
  connectionError : Bool
  setup : Bool
  dashboard : Bool
  deriving DecidableEq, Repr

/-- The page. -/
structure App where
  loop : EventLoop Ticker Job
  screens : Screens
  refreshInterval : Option ℕ
  deleteTunnelId : Option String
  disabled : Button → Bool
  header : Option StatusInfo
  upgradeBanner : Option UpgradeCheckInfo
  setupError : String
  modal : Modal
  deleteDialog : DeleteDialog
  disconnectOverlay : Bool
  upgradeOverlay : Bool
  upgradeProgress : String
  /-- The attempts of each interval of `pollRestartAndReload`. -/
  attempts : ℕ → ℕ
  /-- The tunnels that have been listed. -/
  listed : List TunnelInfo
  sent : List Sent

/-- The page when it is loaded and `init` waits for its reply. The screens are hidden by inline
styles: `inlineStyles` says whether the browser takes these, which the `style-src` of the page's
policy does not allow. -/
def App.load (inlineStyles : Bool) : App where
  loop := EventLoop.new.await .init
  screens := ⟨!inlineStyles, !inlineStyles, !inlineStyles⟩
  refreshInterval := none
  deleteTunnelId := none
  disabled _ := false
  header := none
  upgradeBanner := none
  setupError := ""
  modal := ⟨false, "Add Tunnel", "Add Tunnel", "", "", "", true, ""⟩
  deleteDialog := ⟨false, "", ""⟩
  disconnectOverlay := false
  upgradeOverlay := false
  upgradeProgress := "Downloading and installing the latest version..."
  attempts _ := 0
  listed := []
  sent := []

namespace App

variable (p : App)

/-- A handler waits for a job. -/
def await (job : Job) : App := { p with loop := p.loop.await job }

/-- `btn.disabled = value`. -/
def setDisabled (button : Button) (value : Bool) : App :=
  { p with disabled := Function.update p.disabled button value }

/-- A request that changes something is sent, and the handler waits. -/
def send (request : Sent) (job : Job) : App :=
  { p with loop := p.loop.await job, sent := request :: p.sent }

/-! ## View switching -/

/-- Ask for the tunnels and the status. -/
def refreshDashboard : App := p.await .refreshDashboard

def startRefresh : App :=
  match p.refreshInterval with
  | some _ => p
  | none =>
    let p := p.refreshDashboard
    { p with refreshInterval := some p.loop.next, loop := p.loop.setInterval .refreshDashboard }

def stopRefresh : App :=
  match p.refreshInterval with
  | some id => { p with loop := p.loop.clearInterval id, refreshInterval := none }
  | none => p

def showConnectionError : App := { p with screens := ⟨true, false, false⟩ }.stopRefresh

def showSetup : App := { p with screens := ⟨false, true, false⟩ }.stopRefresh

def showDashboard : App := { p with screens := ⟨false, false, true⟩ }.startRefresh

/-- The rest of `init`, and of the handler of the retry button. -/
def connectionChecked (reply : Reply StatusInfo) : App :=
  match reply with
  | .ok data =>
    if data.connected then p.showDashboard.await .checkForUpgrades else p.showSetup
  | .refused _ => p.showSetup
  | .failed => p.showConnectionError

/-! ## Dialogs -/

def openAddModal : App :=
  { p with modal := ⟨true, "Add Tunnel", "Add Tunnel", "", "", "", true, ""⟩ }

def openEditModal (tunnel : TunnelInfo) : App :=
  { p with
    modal := ⟨true, "Edit Tunnel", "Save Changes", tunnel.id, tunnel.clientId, tunnel.localAddr,
      tunnel.enabled, ""⟩ }

def closeModal : App := { p with modal := { p.modal with active := false } }

def openDeleteModal (tunnel : TunnelInfo) : App :=
  { p with deleteTunnelId := some tunnel.id, deleteDialog := ⟨true, tunnel.clientId, ""⟩ }

def closeDeleteModal : App :=
  { p with deleteTunnelId := none, deleteDialog := { p.deleteDialog with active := false } }

/-- The error of the dialog in which a tunnel is added or edited. -/
def setFormError (error : String) : App := { p with modal := { p.modal with error } }

/-- The error of the dialog in which a tunnel is deleted. -/
def setDeleteError (error : String) : App :=
  { p with deleteDialog := { p.deleteDialog with error } }

end App

/-- `/^[a-zA-Z0-9_-]+$/`: a tunnel name. -/
def isTunnelName (s : String) : Bool :=
  s ≠ "" ∧ s.toList.all fun c => c.isAlphanum || c = '_' || c = '-'

/-- A value that JavaScript takes for true: a text that is not empty. -/
def orText (error : Option String) (text : String) : String :=
  match error with
  | some error => if error = "" then text else error
  | none => text

/-! ## Handlers -/

namespace App

variable (p : App)

/-- The form of the setup screen is submitted. -/
def submitSetup (server token : String) : App :=
  let server := Text.trimJs server
  let token := Text.trimJs token
  if server = "" then { p with setupError := "Server address is required" }
  else if token = "" then { p with setupError := "Token is required" }
  else
    ({ p with setupError := "" }.setDisabled .connect true).send (.connect server token) .connect

/-- The rest of it. -/
def connected (reply : Reply Unit) : App :=
  let p := match reply with
    | .ok _ => p.showDashboard
    | .refused error => { p with setupError := orText error "Connection failed" }
    | .failed =>
      { p with setupError := "Connection error. Please check the server address." }
  p.setDisabled .connect false

/-- The dialog for a disconnect is confirmed. -/
def confirmDisconnect : App := (p.setDisabled .disconnect true).send .disconnect .disconnect

/-- The rest of it. What the server says of the disconnect does not matter. -/
def disconnected (reply : Reply Unit) : App :=
  let p := match reply with
    | .ok _ | .refused _ => { p with disconnectOverlay := false }.showSetup
    | .failed => p
  p.setDisabled .disconnect false

/-- The form of a tunnel is submitted. -/
def submitTunnel : App :=
  let fields : TunnelFields :=
    ⟨Text.trimJs p.modal.clientId, Text.trimJs p.modal.localAddr, p.modal.enabled⟩
  if fields.clientId = "" then p.setFormError "Tunnel name is required"
  else if !isTunnelName fields.clientId then
    p.setFormError "Name can only contain letters, numbers, hyphens, and underscores"
  else if fields.localAddr = "" then p.setFormError "Local address is required"
  else
    ((p.setFormError "").setDisabled .submit true).send
      (if p.modal.id = "" then .add fields else .update p.modal.id fields) .submit

/-- The rest of it. -/
def submitted (reply : Reply Unit) : App :=
  let p := match reply with
    | .ok _ => p.closeModal.refreshDashboard
    | .refused error => p.setFormError (orText error "Operation failed")
    | .failed => p.setFormError "Connection error. Please try again."
  p.setDisabled .submit false

/-- The deletion of a tunnel is confirmed. -/
def confirmDelete : App :=
  match p.deleteTunnelId with
  | none => p
  | some id =>
    if id = "" then p
    else ((p.setDisabled .delete true).setDeleteError "").send (.delete id) .delete

/-- The rest of it. -/
def deleted (reply : Reply Unit) : App :=
  let p := match reply with
    | .ok _ => p.closeDeleteModal.refreshDashboard
    | .refused error => p.setDeleteError (orText error "Failed to delete tunnel")
    | .failed => p.setDeleteError "Connection error. Please try again."
  p.setDisabled .delete false

/-- The rest of `actionTunnel`. -/
def actionSent (reply : Reply Unit) : App :=
  match reply with
  | .ok _ | .refused _ => p.await .refreshLater
  | .failed => p

/-- The rest of `refreshDashboard`. `Promise.all` fails when one of its requests does. `renders` is
whether `renderTunnels` returns. -/
def refreshed (tunnels : Reply (List TunnelInfo)) (status : Reply StatusInfo) (renders : Bool) :
    App :=
  if tunnels = .failed ∨ status = .failed then p
  else
    match status with
    | .ok data =>
      -- If no longer connected, switch to setup.
      if !data.connected then p.showSetup
      else
        match tunnels with
        | .ok list =>
          let p := { p with listed := list ++ p.listed }
          if renders then { p with header := some data } else p
        | _ => { p with header := some data }
    | _ =>
      match tunnels with
      | .ok list => { p with listed := list ++ p.listed }
      | _ => p

/-- The rest of `checkForUpgrades`. -/
def upgradesChecked (reply : Reply UpgradeCheckInfo) : App :=
  match reply with
  | .ok data => { p with upgradeBanner := if data.upgradeAvailable then some data else none }
  | .refused _ => { p with upgradeBanner := none }
  | .failed => p

/-- The upgrade is confirmed. -/
def confirmUpgrade : App :=
  { p with
    upgradeOverlay := true
    upgradeProgress := "Downloading and installing the latest version..." }.send .upgrade .upgrade

/-- The rest of it. -/
def upgraded (reply : Reply Unit) : App :=
  match reply with
  | .ok _ =>
    { p with upgradeProgress := "Upgrade successful! Restarting client..." }.await .pollLater
  | .refused _ | .failed => { p with upgradeOverlay := false }

/-- The interval of `pollRestartAndReload` is set. -/
def pollRestartAndReload : App :=
  { p with
    attempts := Function.update p.attempts p.loop.next 0
    loop := p.loop.setInterval .poll }

/-- That interval runs. -/
def pollTick (id : ℕ) : App :=
  let p := { p with attempts := Function.update p.attempts id (p.attempts id + 1) }
  if p.attempts id > 30 then
    { p with
      loop := p.loop.clearInterval id
      upgradeProgress :=
        "Client restart is taking longer than expected. Please reload the page manually." }
  else p.await (.poll id)

/-- The rest of it. -/
def polled (id : ℕ) (reply : Reply StatusInfo) : App :=
  match reply with
  | .ok _ =>
    { p with
      loop := p.loop.clearInterval id
      upgradeProgress := "Reconnected! Reloading page..." }.await .reloadLater
  | .refused _ | .failed => p

end App

/-! ## Events -/

/-- A reply, with the job that has waited for it. -/
inductive Replied where
  | init (reply : Reply StatusInfo)
  | retry (reply : Reply StatusInfo)
  | checkForUpgrades (reply : Reply UpgradeCheckInfo)
  | refreshDashboard (tunnels : Reply (List TunnelInfo)) (status : Reply StatusInfo)
    (renders : Bool)
  | connect (reply : Reply Unit)
  | disconnect (reply : Reply Unit)
  | submit (reply : Reply Unit)
  | delete (reply : Reply Unit)
  | actionTunnel (reply : Reply Unit)
  | upgrade (reply : Reply Unit)
  | poll (id : ℕ) (reply : Reply StatusInfo)
  | refreshLater
  | pollLater
  deriving DecidableEq, Repr

/-- The job. -/
def Replied.job : Replied → Job
  | .init _ => .init
  | .retry _ => .retry
  | .checkForUpgrades _ => .checkForUpgrades
  | .refreshDashboard _ _ _ => .refreshDashboard
  | .connect _ => .connect
  | .disconnect _ => .disconnect
  | .submit _ => .submit
  | .delete _ => .delete
  | .actionTunnel _ => .actionTunnel
  | .upgrade _ => .upgrade
  | .poll id _ => .poll id
  | .refreshLater => .refreshLater
  | .pollLater => .pollLater

/-- What the user does. -/
inductive UserEvent where
  | submitSetup (server token : String)
  | retry
  | openDisconnect
  | closeDisconnect
  | confirmDisconnect
  | openAdd
  | edit (tunnel : TunnelInfo)
  | closeModal
  /-- The user changes the fields of the form. -/
  | fill (clientId localAddr : String) (enabled : Bool)
  | submitTunnel
  | delete (tunnel : TunnelInfo)
  | closeDelete
  | confirmDelete
  | action (tunnel : TunnelInfo) (action : CardAction)
  | confirmUpgrade
  | escape
  deriving DecidableEq, Repr

/-- The button that must not be disabled. -/
def UserEvent.button : UserEvent → Option Button
  | .submitSetup _ _ => some .connect
  | .retry => some .retry
  | .confirmDisconnect => some .disconnect
  | .submitTunnel => some .submit
  | .confirmDelete => some .delete
  | _ => none

/-- The tunnel of the card that is clicked on. -/
def UserEvent.tunnel : UserEvent → Option TunnelInfo
  | .edit tunnel | .delete tunnel | .action tunnel _ => some tunnel
  | _ => none

/-- What happens to the page. -/
inductive PageEvent where
  | user (event : UserEvent)
  | replied (reply : Replied)
  /-- An interval runs. -/
  | tick (id : ℕ)
  /-- The page is reloaded. -/
  | reload
  deriving DecidableEq, Repr

namespace App

variable (p : App)

/-- The handler of what the user does. -/
def handle : UserEvent → App
  | .submitSetup server token => p.submitSetup server token
  | .retry => (p.setDisabled .retry true).await .retry
  | .openDisconnect => { p with disconnectOverlay := true }
  | .closeDisconnect => { p with disconnectOverlay := false }
  | .confirmDisconnect => p.confirmDisconnect
  | .openAdd => p.openAddModal
  | .edit tunnel => p.openEditModal tunnel
  | .closeModal => p.closeModal
  | .fill clientId localAddr enabled =>
    { p with modal := { p.modal with clientId, localAddr, enabled } }
  | .submitTunnel => p.submitTunnel
  | .delete tunnel => p.openDeleteModal tunnel
  | .closeDelete => p.closeDeleteModal
  | .confirmDelete => p.confirmDelete
  | .action tunnel action => p.send (.action tunnel.id action) .actionTunnel
  | .confirmUpgrade => p.confirmUpgrade
  | .escape => { p.closeModal.closeDeleteModal with disconnectOverlay := false }

/-- The rest of a handler, when its job has been settled. -/
def resume : Replied → App
  | .init reply => p.connectionChecked reply
  | .retry reply => (p.connectionChecked reply).setDisabled .retry false
  | .checkForUpgrades reply => p.upgradesChecked reply
  | .refreshDashboard tunnels status renders => p.refreshed tunnels status renders
  | .connect reply => p.connected reply
  | .disconnect reply => p.disconnected reply
  | .submit reply => p.submitted reply
  | .delete reply => p.deleted reply
  | .actionTunnel reply => p.actionSent reply
  | .upgrade reply => p.upgraded reply
  | .poll id reply => p.polled id reply
  | .refreshLater => p.refreshDashboard
  | .pollLater => p.pollRestartAndReload

end App

/-- One event. A disabled button cannot be clicked, nor its form be submitted. -/
def pageStep (inlineStyles : Bool) (p : App) : PageEvent → Option App
  | .user event =>
    if event.button.any p.disabled then none
    else if event.tunnel.any (· ∉ p.listed) then none
    else some (p.handle event)
  | .replied reply =>
    if reply.job ∈ p.loop.jobs then
      some ({ p with loop := p.loop.settle reply.job }.resume reply)
    else none
  | .tick id =>
    match p.loop.intervals id with
    | some .refreshDashboard => some p.refreshDashboard
    | some .poll => some (p.pollTick id)
    | none => none
  | .reload => if .reloadLater ∈ p.loop.jobs then some (.load inlineStyles) else none

end ClientPage

end ZoTunnel
