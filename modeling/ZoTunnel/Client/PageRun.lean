import ZoTunnel.Client.PageScript
import ZoTunnel.Lib.Run

/-!
# The client's page in any order of events

Clicks, replies and intervals come to the page in any order. `page_consistent` says what the page
relies on: once a screen is shown it is the only one, the page polls exactly while this is the
dashboard and has no second interval, a button is disabled exactly while its one request is under
way, and a click sends the one request that it stands for (`Asks`): with the values of the form, for
the tunnel that the form or the dialog is about, or for the tunnel of the card.

The handlers set a flag before their `await` and reset it at their end. So the invariant
(`App.Keeps`) has the flags that the jobs call for as an argument, and they are those of the page
between the events only.
-/

namespace ZoTunnel.ClientPage

open EventLoop

/-! ## The invariant -/

/-- Either no screen has been shown yet, and the page does not poll; or one screen is shown, and the
page polls exactly if it is the dashboard. -/
def ScreensPoll (inlineStyles : Bool) (screens : Screens) (refreshInterval : Option ℕ) : Prop :=
  (screens = ⟨!inlineStyles, !inlineStyles, !inlineStyles⟩ ∧ refreshInterval = none) ∨
    (screens = ⟨true, false, false⟩ ∧ refreshInterval = none) ∨
    (screens = ⟨false, true, false⟩ ∧ refreshInterval = none) ∨
    (screens = ⟨false, false, true⟩ ∧ refreshInterval.isSome = true)

/-- The dialog for a deletion is open exactly if there is a tunnel to delete, and has its name. -/
structure DeletesNamed (dialog : DeleteDialog) (deleteTunnelId : Option String)
    (listed : List TunnelInfo) : Prop where
  active : dialog.active = deleteTunnelId.isSome
  named : ∀ id, deleteTunnelId = some id → ∃ t ∈ listed, t.id = id ∧ t.clientId = dialog.name

/-- The dialog of a tunnel says whether the tunnel is added or edited. -/
def EditsNamed (modal : Modal) (listed : List TunnelInfo) : Prop :=
  (modal.title = "Add Tunnel" ∧ modal.submit = "Add Tunnel" ∧ modal.id = "") ∨
    (modal.title = "Edit Tunnel" ∧ modal.submit = "Save Changes" ∧
      ∃ t ∈ listed, t.id = modal.id)

/-- A job waits for the reply that a button is disabled for. -/
def Job.waitsFor (b : Button) (job : Job) : Bool := job.button = some b

namespace App

/-- The invariant of the page, with the buttons whose requests are under way. -/
structure Keeps (inlineStyles : Bool) (flags : Button → Bool) (p : App) : Prop where
  polls : p.loop.Polls .refreshDashboard p.refreshInterval
  buttons : ∀ b, p.loop.Occupied (Job.waitsFor b) (flags b)
  screens : ScreensPoll inlineStyles p.screens p.refreshInterval
  delete : DeletesNamed p.deleteDialog p.deleteTunnelId p.listed
  modal : EditsNamed p.modal p.listed
  /-- An interval whose reply is waited for is not the one that polls. -/
  polled : ∀ id, .poll id ∈ p.loop.jobs →
    id < p.loop.next ∧ p.loop.intervals id ≠ some .refreshDashboard

variable {inlineStyles : Bool} {flags : Button → Bool} {p : App}

/-! ## Jobs -/

/-- A job of no button begins. -/
theorem Keeps.await (h : p.Keeps inlineStyles flags) (job : Job) (hbutton : job.button = none)
    (hpoll : ∀ id, job = .poll id →
      id < p.loop.next ∧ p.loop.intervals id ≠ some .refreshDashboard) :
    (p.await job).Keeps inlineStyles flags := by
  refine { h with
    polls := h.polls.of_jobs _, buttons := fun b => ?_, polled := fun id hid => ?_ }
  · refine (h.buttons b).await_of_ne (decide_eq_false ?_)
    rw [hbutton]
    nofun
  · rcases List.mem_cons.mp hid with heq | hid
    · exact hpoll id heq.symm
    · exact h.polled id hid

/-- The request of a button begins. -/
theorem Keeps.await_button (h : p.Keeps inlineStyles flags) (job : Job) {b : Button}
    (hbutton : job.button = some b) (hfree : flags b = false) :
    (p.await job).Keeps inlineStyles (Function.update flags b true) := by
  refine { h with
    polls := h.polls.of_jobs _, buttons := fun b' => ?_, polled := fun id hid => ?_ }
  · rcases eq_or_ne b' b with rfl | hne
    · have hold := h.buttons b'
      rw [hfree] at hold
      rw [Function.update_self]
      exact hold.await (decide_eq_true hbutton)
    · rw [Function.update_of_ne hne]
      refine (h.buttons b').await_of_ne (decide_eq_false ?_)
      rw [hbutton]
      exact fun heq => hne (Option.some.inj heq).symm
  · rcases List.mem_cons.mp hid with heq | hid
    · rw [← heq] at hbutton
      cases hbutton
    · exact h.polled id hid

/-- The flags when a job is settled. -/
def settledFlags (flags : Button → Bool) (job : Job) : Button → Bool :=
  match job.button with
  | some b => Function.update flags b false
  | none => flags

/-- A job is settled. -/
theorem Keeps.settle (h : p.Keeps inlineStyles flags) {job : Job} (hmem : job ∈ p.loop.jobs) :
    ({ p with loop := p.loop.settle job } : App).Keeps inlineStyles (settledFlags flags job) := by
  refine { h with
    polls := h.polls.of_jobs _, buttons := fun b => ?_
    polled := fun id hid => h.polled id (List.mem_of_mem_erase hid) }
  unfold settledFlags
  cases hbutton : job.button with
  | none =>
    refine (h.buttons b).settle_of_ne (decide_eq_false ?_)
    rw [hbutton]
    nofun
  | some b' =>
    dsimp only
    rcases eq_or_ne b b' with rfl | hne
    · rw [Function.update_self]
      exact ((h.buttons b).settle hmem (decide_eq_true hbutton)).2
    · rw [Function.update_of_ne hne]
      refine (h.buttons b).settle_of_ne (decide_eq_false ?_)
      rw [hbutton]
      exact fun heq => hne (Option.some.inj heq).symm

/-- A request for the tunnels and the status. -/
theorem Keeps.refreshDashboard (h : p.Keeps inlineStyles flags) :
    p.refreshDashboard.Keeps inlineStyles flags :=
  h.await _ rfl nofun

/-! ## Screens -/

/-- To stop polling, when the screen that is displayed is not the dashboard. -/
theorem Keeps.stopRefresh (h : p.Keeps inlineStyles flags) {screens : Screens}
    (hscreens : screens = ⟨true, false, false⟩ ∨ screens = ⟨false, true, false⟩) :
    ({ p with screens } : App).stopRefresh.Keeps inlineStyles flags := by
  have hpoll : ScreensPoll inlineStyles screens none := by
    rcases hscreens with rfl | rfl
    · exact .inr (.inl ⟨rfl, rfl⟩)
    · exact .inr (.inr (.inl ⟨rfl, rfl⟩))
  unfold App.stopRefresh
  dsimp only
  have hpolls := h.polls
  cases hinterval : p.refreshInterval with
  | none =>
    rw [hinterval] at hpolls
    exact { h with polls := hpolls, screens := hpoll }
  | some id =>
    rw [hinterval] at hpolls
    refine { h with polls := hpolls.clearInterval, screens := hpoll, polled := fun id' hid' => ?_ }
    obtain ⟨hlt, hne⟩ := h.polled id' hid'
    refine ⟨hlt, ?_⟩
    unfold EventLoop.clearInterval
    dsimp only
    rw [Function.update_apply]
    split_ifs
    · nofun
    · exact hne

/-- The connection error is shown. -/
theorem Keeps.showConnectionError (h : p.Keeps inlineStyles flags) :
    p.showConnectionError.Keeps inlineStyles flags :=
  h.stopRefresh (.inl rfl)

/-- The setup is shown. -/
theorem Keeps.showSetup (h : p.Keeps inlineStyles flags) :
    p.showSetup.Keeps inlineStyles flags :=
  h.stopRefresh (.inr rfl)

/-- The dashboard is shown, and the page begins to poll if it does not yet. -/
theorem Keeps.showDashboard (h : p.Keeps inlineStyles flags) :
    p.showDashboard.Keeps inlineStyles flags := by
  unfold App.showDashboard App.startRefresh
  dsimp only
  have hpolls := h.polls
  cases hinterval : p.refreshInterval with
  | some id =>
    rw [hinterval] at hpolls
    exact { h with polls := hpolls, screens := .inr (.inr (.inr ⟨rfl, rfl⟩)) }
  | none =>
    rw [hinterval] at hpolls
    have hasked := h.refreshDashboard
    refine { hasked with
      polls := (hpolls.of_jobs _).setInterval, screens := .inr (.inr (.inr ⟨rfl, rfl⟩))
      polled := fun id hid => ?_ }
    obtain ⟨hlt, hne⟩ := hasked.polled id hid
    have hid : id ≠ p.loop.next := Nat.ne_of_lt hlt
    refine ⟨Nat.lt_succ_of_lt hlt, ?_⟩
    change Function.update p.loop.intervals p.loop.next _ id ≠ _
    rw [Function.update_of_ne hid]
    exact hne

/-- The rest of a check of the connection keeps the invariant. -/
theorem Keeps.connectionChecked (h : p.Keeps inlineStyles flags) (reply : Reply StatusInfo) :
    (p.connectionChecked reply).Keeps inlineStyles flags := by
  unfold App.connectionChecked
  cases reply with
  | failed => exact h.showConnectionError
  | refused error => exact h.showSetup
  | ok data =>
    dsimp only
    split_ifs
    · exact h.showDashboard.await _ rfl nofun
    · exact h.showSetup

/-! ## Dialogs -/

/-- The dialog of a tunnel is opened for a new one. -/
theorem Keeps.openAddModal (h : p.Keeps inlineStyles flags) :
    p.openAddModal.Keeps inlineStyles flags :=
  { h with modal := .inl ⟨rfl, rfl, rfl⟩ }

/-- It is opened for a tunnel that is listed. -/
theorem Keeps.openEditModal (h : p.Keeps inlineStyles flags) {tunnel : TunnelInfo}
    (hlisted : tunnel ∈ p.listed) : (p.openEditModal tunnel).Keeps inlineStyles flags :=
  { h with modal := .inr ⟨rfl, rfl, tunnel, hlisted, rfl⟩ }

/-- It is closed. -/
theorem Keeps.closeModal (h : p.Keeps inlineStyles flags) :
    p.closeModal.Keeps inlineStyles flags :=
  { h with modal := h.modal }

/-- Its error is set. -/
theorem Keeps.setFormError (h : p.Keeps inlineStyles flags) (error : String) :
    (p.setFormError error).Keeps inlineStyles flags :=
  { h with modal := h.modal }

/-- The dialog for a deletion is opened for a tunnel that is listed. -/
theorem Keeps.openDeleteModal (h : p.Keeps inlineStyles flags) {tunnel : TunnelInfo}
    (hlisted : tunnel ∈ p.listed) : (p.openDeleteModal tunnel).Keeps inlineStyles flags := by
  refine { h with delete := ⟨rfl, fun id hid => ?_⟩ }
  exact ⟨tunnel, hlisted, Option.some.inj hid, rfl⟩

/-- It is closed. -/
theorem Keeps.closeDeleteModal (h : p.Keeps inlineStyles flags) :
    p.closeDeleteModal.Keeps inlineStyles flags :=
  { h with delete := ⟨rfl, nofun⟩ }

/-- Its error is set. -/
theorem Keeps.setDeleteError (h : p.Keeps inlineStyles flags) (error : String) :
    (p.setDeleteError error).Keeps inlineStyles flags :=
  { h with delete := ⟨h.delete.active, h.delete.named⟩ }

/-- More tunnels are listed. -/
theorem Keeps.list (h : p.Keeps inlineStyles flags) (tunnels : List TunnelInfo) :
    ({ p with listed := tunnels ++ p.listed } : App).Keeps inlineStyles flags := by
  refine { h with delete := ⟨h.delete.active, fun id hid => ?_⟩, modal := ?_ }
  · obtain ⟨t, ht, hnamed⟩ := h.delete.named id hid
    exact ⟨t, List.mem_append_right _ ht, hnamed⟩
  · rcases h.modal with hadd | ⟨htitle, hsubmit, t, ht, hid⟩
    · exact .inl hadd
    · exact .inr ⟨htitle, hsubmit, t, List.mem_append_right _ ht, hid⟩

/-! ## Intervals of an upgrade -/

/-- The interval that waits for the restart is set. -/
theorem Keeps.pollRestartAndReload (h : p.Keeps inlineStyles flags) :
    p.pollRestartAndReload.Keeps inlineStyles flags := by
  refine { h with polls := h.polls.setInterval_of_ne nofun, polled := fun id hid => ?_ }
  obtain ⟨hlt, hne⟩ := h.polled id hid
  have hid : id ≠ p.loop.next := Nat.ne_of_lt hlt
  refine ⟨Nat.lt_succ_of_lt hlt, ?_⟩
  change Function.update p.loop.intervals p.loop.next _ id ≠ _
  rw [Function.update_of_ne hid]
  exact hne

/-- An interval that does not poll is cleared. -/
theorem Keeps.clearInterval (h : p.Keeps inlineStyles flags) {id : ℕ}
    (hne : p.loop.intervals id ≠ some .refreshDashboard) :
    ({ p with loop := p.loop.clearInterval id } : App).Keeps inlineStyles flags := by
  refine { h with polls := h.polls.clearInterval_of_ne hne, polled := fun id' hid' => ?_ }
  obtain ⟨hlt, hne'⟩ := h.polled id' hid'
  refine ⟨hlt, ?_⟩
  change Function.update p.loop.intervals id none id' ≠ _
  rw [Function.update_apply]
  split_ifs
  · nofun
  · exact hne'

/-- That interval runs. -/
theorem Keeps.pollTick (h : p.Keeps inlineStyles flags) {id : ℕ}
    (hpoll : p.loop.intervals id = some .poll) : (p.pollTick id).Keeps inlineStyles flags := by
  have hne : p.loop.intervals id ≠ some .refreshDashboard := by
    rw [hpoll]
    nofun
  have hlt : id < p.loop.next := by
    by_contra hle
    have hnone := h.polls.fresh id (Nat.le_of_not_lt hle)
    rw [hnone] at hpoll
    cases hpoll
  unfold App.pollTick
  dsimp only
  split_ifs
  · have hcleared := h.clearInterval hne
    exact { hcleared with }
  · have hcounted : ({ p with
        attempts := Function.update p.attempts id (p.attempts id + 1) } : App).Keeps
          inlineStyles flags := { h with }
    refine hcounted.await _ rfl fun id' hid' => ?_
    obtain rfl := Job.poll.inj hid'
    exact ⟨hlt, hne⟩

/-! ## Handlers -/

/-- To stop polling disables no button. -/
@[simp]
theorem stopRefresh_disabled (p : App) : p.stopRefresh.disabled = p.disabled := by
  unfold App.stopRefresh
  split <;> rfl

/-- To poll disables no button. -/
@[simp]
theorem startRefresh_disabled (p : App) : p.startRefresh.disabled = p.disabled := by
  unfold App.startRefresh
  split <;> rfl

/-- To show the setup disables no button. -/
@[simp]
theorem showSetup_disabled (p : App) : p.showSetup.disabled = p.disabled :=
  stopRefresh_disabled _

/-- To show the dashboard disables no button. -/
@[simp]
theorem showDashboard_disabled (p : App) : p.showDashboard.disabled = p.disabled :=
  startRefresh_disabled _

/-- To check the connection disables no button. -/
@[simp]
theorem connectionChecked_disabled (p : App) (reply : Reply StatusInfo) :
    (p.connectionChecked reply).disabled = p.disabled := by
  unfold App.connectionChecked
  cases reply with
  | failed => exact stopRefresh_disabled _
  | refused error => exact showSetup_disabled p
  | ok data =>
    dsimp only
    split_ifs
    · exact showDashboard_disabled p
    · exact showSetup_disabled p

/-- The invariant holds for the flags of the page. -/
theorem Keeps.of_disabled (h : p.Keeps inlineStyles flags) (hdisabled : p.disabled = flags) :
    p.Keeps inlineStyles p.disabled := by
  rw [hdisabled]
  exact h

/-- A request is sent, and its button disabled. -/
theorem Keeps.request (h : p.Keeps inlineStyles p.disabled) (job : Job) {b : Button}
    (hbutton : job.button = some b) (hfree : p.disabled b = false) (request : Sent) :
    ((p.setDisabled b true).send request job).Keeps inlineStyles
      ((p.setDisabled b true).send request job).disabled :=
  { h.await_button job hbutton hfree with }

/-- What the user does keeps the invariant. -/
theorem Keeps.handle (h : p.Keeps inlineStyles p.disabled) (event : UserEvent)
    (hbutton : ∀ b, event.button = some b → p.disabled b = false)
    (hlisted : ∀ t, event.tunnel = some t → t ∈ p.listed) :
    (p.handle event).Keeps inlineStyles (p.handle event).disabled := by
  cases event with
  | submitSetup server token =>
    unfold App.handle App.submitSetup
    dsimp only
    split_ifs
    · exact { h with }
    · exact { h with }
    · exact { h.await_button .connect rfl (hbutton _ rfl) with }
  | retry => exact { h.await_button .retry rfl (hbutton _ rfl) with }
  | openDisconnect | closeDisconnect => exact { h with }
  | confirmDisconnect => exact h.request .disconnect rfl (hbutton _ rfl) _
  | openAdd => exact h.openAddModal
  | edit tunnel => exact h.openEditModal (hlisted tunnel rfl)
  | closeModal => exact h.closeModal
  | fill clientId localAddr enabled => exact { h with modal := h.modal }
  | submitTunnel =>
    unfold App.handle App.submitTunnel
    dsimp only
    split_ifs
    · exact h.setFormError _
    · exact h.setFormError _
    · exact h.setFormError _
    · have hcleared : (p.setFormError "").Keeps inlineStyles (p.setFormError "").disabled :=
        h.setFormError ""
      exact hcleared.request .submit rfl (hbutton _ rfl) _
    · have hcleared : (p.setFormError "").Keeps inlineStyles (p.setFormError "").disabled :=
        h.setFormError ""
      exact hcleared.request .submit rfl (hbutton _ rfl) _
  | delete tunnel => exact h.openDeleteModal (hlisted tunnel rfl)
  | closeDelete => exact h.closeDeleteModal
  | confirmDelete =>
    unfold App.handle App.confirmDelete
    dsimp only
    split
    · exact h
    · split_ifs
      · exact h
      · have hsent := h.request .delete rfl (hbutton _ rfl) (.delete "")
        exact { hsent.setDeleteError "" with }
  | action tunnel action =>
    have hsent := h.await .actionTunnel rfl nofun
    exact { hsent with }
  | confirmUpgrade =>
    have hsent := h.await .upgrade rfl nofun
    exact { hsent with }
  | escape => exact { h.closeModal.closeDeleteModal with }

/-- The rest of a handler resets the flag that its job was waiting for, and no other. -/
theorem resume_disabled (p : App) (reply : Replied) :
    (p.resume reply).disabled = settledFlags p.disabled reply.job := by
  cases reply with
  | init reply => exact connectionChecked_disabled p reply
  | retry reply =>
    change Function.update (p.connectionChecked reply).disabled .retry false = _
    rw [connectionChecked_disabled]
    rfl
  | refreshDashboard tunnels status renders =>
    unfold App.resume App.refreshed
    dsimp only
    by_cases hfailed : tunnels = .failed ∨ status = .failed
    · rw [if_pos hfailed]
      rfl
    · rw [if_neg hfailed]
      cases status with
      | failed | refused error => cases tunnels <;> rfl
      | ok data =>
        dsimp only
        split_ifs
        · exact showSetup_disabled p
        · cases tunnels <;> rfl
        · cases tunnels <;> rfl
  | connect reply =>
    cases reply with
    | ok => exact congrArg (Function.update · _ _) (showDashboard_disabled p)
    | failed | refused error => rfl
  | disconnect reply =>
    cases reply with
    | failed => rfl
    | ok | refused error => exact congrArg (Function.update · _ _) (showSetup_disabled _)
  | checkForUpgrades reply | submit reply | delete reply | actionTunnel reply | upgrade reply
  | poll id reply => cases reply <;> rfl
  | refreshLater | pollLater => rfl

/-- The rest of a handler keeps the invariant, for the flags after its job has been settled. -/
theorem Keeps.resume (h : p.Keeps inlineStyles flags) (reply : Replied)
    (hpoll : ∀ id, reply.job = .poll id → p.loop.intervals id ≠ some .refreshDashboard) :
    (p.resume reply).Keeps inlineStyles flags := by
  cases reply with
  | init reply => exact h.connectionChecked reply
  | retry reply => exact { h.connectionChecked reply with }
  | checkForUpgrades reply =>
    cases reply with
    | failed => exact h
    | refused error | ok data => exact { h with }
  | refreshDashboard tunnels status renders =>
    unfold App.resume App.refreshed
    dsimp only
    by_cases hfailed : tunnels = .failed ∨ status = .failed
    · rw [if_pos hfailed]
      exact h
    · rw [if_neg hfailed]
      cases status with
      | failed | refused error =>
        cases tunnels with
        | failed | refused error => exact h
        | ok list => exact h.list list
      | ok data =>
        dsimp only
        split_ifs
        · exact h.showSetup
        · cases tunnels with
          | failed | refused error => exact { h with }
          | ok list => exact { h.list list with }
        · cases tunnels with
          | failed | refused error => exact { h with }
          | ok list => exact h.list list
  | connect reply =>
    cases reply with
    | ok => exact { h.showDashboard with }
    | failed | refused error => exact { h with }
  | disconnect reply =>
    cases reply with
    | failed => exact { h with }
    | ok | refused error =>
      have hclosed : ({ p with disconnectOverlay := false } : App).Keeps inlineStyles flags :=
        { h with }
      exact { hclosed.showSetup with }
  | submit reply =>
    cases reply with
    | ok => exact { h.closeModal.refreshDashboard with }
    | failed | refused error => exact { h.setFormError _ with }
  | delete reply =>
    cases reply with
    | ok => exact { h.closeDeleteModal.refreshDashboard with }
    | failed | refused error => exact { h.setDeleteError _ with }
  | actionTunnel reply =>
    cases reply with
    | failed => exact h
    | ok | refused error => exact h.await _ rfl nofun
  | upgrade reply =>
    cases reply with
    | ok => exact { h.await .pollLater rfl nofun with }
    | failed | refused error => exact { h with }
  | poll id reply =>
    cases reply with
    | ok => exact { (h.clearInterval (hpoll id rfl)).await .reloadLater rfl nofun with }
    | failed | refused error => exact h
  | refreshLater => exact h.refreshDashboard
  | pollLater => exact h.pollRestartAndReload

/-- The page is loaded with the invariant. -/
theorem keeps_load (inlineStyles : Bool) :
    (App.load inlineStyles).Keeps inlineStyles (App.load inlineStyles).disabled where
  polls := polls_new.of_jobs _
  buttons b := by cases b <;> rfl
  screens := .inl ⟨rfl, rfl⟩
  delete := ⟨rfl, nofun⟩
  modal := .inl ⟨rfl, rfl, rfl⟩
  polled id hid := by
    cases List.mem_singleton.mp hid

/-- Every event keeps the invariant. -/
theorem Keeps.step {p' : App} (h : p.Keeps inlineStyles p.disabled) {event : PageEvent}
    (hstep : pageStep inlineStyles p event = some p') : p'.Keeps inlineStyles p'.disabled := by
  unfold pageStep at hstep
  cases event with
  | user event =>
    dsimp only at hstep
    split_ifs at hstep with hbutton hlisted
    obtain rfl := Option.some.inj hstep
    refine h.handle event (fun b hb => ?_) (fun t ht => ?_)
    · rw [hb] at hbutton
      exact Bool.eq_false_iff.mpr hbutton
    · rw [ht] at hlisted
      exact not_not.mp fun hnot => hlisted (decide_eq_true hnot)
  | replied reply =>
    dsimp only at hstep
    split_ifs at hstep with hmem
    obtain rfl := Option.some.inj hstep
    have hresumed := (h.settle hmem).resume reply fun id hid => (h.polled id (hid ▸ hmem)).2
    exact hresumed.of_disabled (resume_disabled ..)
  | tick id =>
    dsimp only at hstep
    cases hinterval : p.loop.intervals id with
    | none =>
      rw [hinterval] at hstep
      cases hstep
    | some ticker =>
      rw [hinterval] at hstep
      cases ticker with
      | refreshDashboard =>
        obtain rfl := Option.some.inj hstep
        exact h.refreshDashboard
      | poll =>
        obtain rfl := Option.some.inj hstep
        refine (h.pollTick hinterval).of_disabled ?_
        unfold App.pollTick
        dsimp only
        split_ifs <;> rfl
  | reload =>
    dsimp only at hstep
    split_ifs at hstep
    obtain rfl := Option.some.inj hstep
    exact keeps_load inlineStyles

/-! ## Requests -/

/-- The values of the form, as they are sent. -/
structure FromForm (p : App) (fields : TunnelFields) : Prop where
  values : fields =
    ⟨Text.trimJs p.modal.clientId, Text.trimJs p.modal.localAddr, p.modal.enabled⟩
  name : isTunnelName fields.clientId = true
  addr : fields.localAddr ≠ ""

/-- To stop polling sends nothing that changes something. -/
@[simp]
theorem stopRefresh_sent (p : App) : p.stopRefresh.sent = p.sent := by
  unfold App.stopRefresh
  split <;> rfl

/-- So does showing the dashboard. -/
@[simp]
theorem showDashboard_sent (p : App) : p.showDashboard.sent = p.sent := by
  unfold App.showDashboard App.startRefresh
  split <;> rfl

/-- So does a check of the connection. -/
@[simp]
theorem connectionChecked_sent (p : App) (reply : Reply StatusInfo) :
    (p.connectionChecked reply).sent = p.sent := by
  unfold App.connectionChecked
  cases reply with
  | failed | refused error => exact stopRefresh_sent _
  | ok data =>
    dsimp only
    split_ifs
    · exact showDashboard_sent p
    · exact stopRefresh_sent _

/-- So does the rest of every handler. -/
theorem resume_sent (p : App) (reply : Replied) : (p.resume reply).sent = p.sent := by
  cases reply with
  | init reply | retry reply => exact connectionChecked_sent p reply
  | refreshDashboard tunnels status renders =>
    unfold App.resume App.refreshed
    dsimp only
    by_cases hfailed : tunnels = .failed ∨ status = .failed
    · rw [if_pos hfailed]
    · rw [if_neg hfailed]
      cases status with
      | failed | refused error => cases tunnels <;> rfl
      | ok data =>
        dsimp only
        split_ifs
        · exact stopRefresh_sent _
        · cases tunnels <;> rfl
        · cases tunnels <;> rfl
  | connect reply =>
    cases reply with
    | ok => exact showDashboard_sent p
    | failed | refused error => rfl
  | disconnect reply =>
    cases reply with
    | failed => rfl
    | ok | refused error => exact stopRefresh_sent _
  | checkForUpgrades reply | submit reply | delete reply | actionTunnel reply | upgrade reply
  | poll id reply => cases reply <;> rfl
  | refreshLater | pollLater => rfl

end App

/-- What the user asks for with a click or by submitting a form, as the page shows it: the values of
the form without the white space around them, the tunnel that the form is for, the tunnel whose name
the dialog for a deletion has, or the tunnel of the card. -/
inductive Asks (p : App) : UserEvent → Sent → Prop where
  | connect (server token : String) (hserver : Text.trimJs server ≠ "")
      (htoken : Text.trimJs token ≠ "") :
    Asks p (.submitSetup server token) (.connect (Text.trimJs server) (Text.trimJs token))
  | disconnect : Asks p .confirmDisconnect .disconnect
  | add (fields : TunnelFields) (hid : p.modal.id = "") (hform : p.FromForm fields) :
    Asks p .submitTunnel (.add fields)
  | update (fields : TunnelFields) (htitle : p.modal.title = "Edit Tunnel") (hid : p.modal.id ≠ "")
      (hlisted : ∃ t ∈ p.listed, t.id = p.modal.id) (hform : p.FromForm fields) :
    Asks p .submitTunnel (.update p.modal.id fields)
  | delete (id : String) (hid : p.deleteTunnelId = some id) (hne : id ≠ "")
      (hactive : p.deleteDialog.active = true)
      (hnamed : ∃ t ∈ p.listed, t.id = id ∧ t.clientId = p.deleteDialog.name) :
    Asks p .confirmDelete (.delete id)
  | action (tunnel : TunnelInfo) (action : CardAction) (hlisted : tunnel ∈ p.listed) :
    Asks p (.action tunnel action) (.action tunnel.id action)
  | upgrade : Asks p .confirmUpgrade .upgrade

/-- What an event of the user comes to: the request that the user asks for, and nothing else. -/
def App.Answers (p : App) (event : UserEvent) (p' : App) : Prop :=
  (∃ request, Asks p event request ∧ p'.sent = request :: p.sent) ∨
    (∀ request, ¬ Asks p event request) ∧ p'.sent = p.sent

/-- An event of the user sends the request that the user asks for. No other event sends any. -/
def SendsShown (p : App) (event : PageEvent) (p' : App) : Prop :=
  match event with
  | .user event => p.Answers event p'
  | .reload => p'.sent = []
  | .replied _ | .tick _ => p'.sent = p.sent

/-- What the page relies on between the events. -/
structure App.Consistent (inlineStyles : Bool) (p : App) : Prop where
  screens : ScreensPoll inlineStyles p.screens p.refreshInterval
  /-- The interval that polls is the one whose id the page keeps. -/
  interval : ∀ id, p.loop.intervals id = some .refreshDashboard ↔ p.refreshInterval = some id
  /-- A disabled button has one request under way, and another button none. -/
  buttons : ∀ b, p.loop.jobs.countP (Job.waitsFor b) = (p.disabled b).toNat
  delete : DeletesNamed p.deleteDialog p.deleteTunnelId p.listed
  modal : EditsNamed p.modal p.listed

/-- The form of a tunnel asks for what is sent. -/
theorem App.Keeps.answers_submitTunnel {inlineStyles : Bool} {flags : Button → Bool} {p : App}
    (h : p.Keeps inlineStyles flags) : p.Answers .submitTunnel (p.handle .submitTunnel) := by
  have hasked : ∀ request, Asks p .submitTunnel request → ∃ fields, p.FromForm fields := by
    intro request hasks
    cases hasks with
    | add fields _ hform | update fields _ _ _ hform => exact ⟨fields, hform⟩
  unfold App.handle App.submitTunnel
  dsimp only
  split_ifs with hempty hname haddr hid
  · -- A name that is empty or has other characters is not sent, nor is an empty address.
    refine .inr ⟨fun request hasks => ?_, rfl⟩
    obtain ⟨fields, hvalues, hname, -⟩ := hasked request hasks
    have hfails : isTunnelName "" = false := by decide
    rw [hvalues, hempty] at hname
    exact absurd (hname.symm.trans hfails) nofun
  · refine .inr ⟨fun request hasks => ?_, rfl⟩
    obtain ⟨fields, hvalues, hvalid, -⟩ := hasked request hasks
    rw [hvalues] at hvalid
    rw [hvalid] at hname
    cases hname
  · refine .inr ⟨fun request hasks => ?_, rfl⟩
    obtain ⟨fields, hvalues, -, hne⟩ := hasked request hasks
    rw [hvalues] at hne
    exact hne haddr
  · exact .inl ⟨_, .add _ hid ⟨rfl, by simpa using hname, haddr⟩, rfl⟩
  · rcases h.modal with ⟨-, -, hnone⟩ | ⟨htitle, -, hlisted⟩
    · exact absurd hnone hid
    · exact .inl ⟨_, .update _ htitle hid hlisted ⟨rfl, by simpa using hname, haddr⟩, rfl⟩

/-- The dialog for a deletion asks for what is sent. -/
theorem App.Keeps.answers_confirmDelete {inlineStyles : Bool} {flags : Button → Bool} {p : App}
    (h : p.Keeps inlineStyles flags) : p.Answers .confirmDelete (p.handle .confirmDelete) := by
  unfold App.handle App.confirmDelete
  dsimp only
  cases hid : p.deleteTunnelId with
  | none =>
    refine .inr ⟨fun request hasks => ?_, rfl⟩
    cases hasks with
    | delete id hsome =>
      rw [hid] at hsome
      cases hsome
  | some id =>
    dsimp only
    split_ifs with hempty
    · refine .inr ⟨fun request hasks => ?_, rfl⟩
      cases hasks with
      | delete id' hsome hne =>
        rw [hid] at hsome
        exact hne (Option.some.inj hsome ▸ hempty)
    · have hactive : p.deleteDialog.active = true := by
        rw [h.delete.active, hid]
        rfl
      exact .inl ⟨_, .delete id hid hempty hactive (h.delete.named id hid), rfl⟩

/-- An event of the user sends what the user asks for. -/
theorem App.Keeps.answers {inlineStyles : Bool} {flags : Button → Bool} {p : App}
    (h : p.Keeps inlineStyles flags) (event : UserEvent)
    (hlisted : ∀ t, event.tunnel = some t → t ∈ p.listed) : p.Answers event (p.handle event) := by
  cases event with
  | submitSetup server token =>
    unfold App.handle App.submitSetup
    dsimp only
    split_ifs with hserver htoken
    · refine .inr ⟨fun request hasks => ?_, rfl⟩
      cases hasks with
      | connect _ _ hne => exact hne hserver
    · refine .inr ⟨fun request hasks => ?_, rfl⟩
      cases hasks with
      | connect _ _ _ hne => exact hne htoken
    · exact .inl ⟨_, .connect server token hserver htoken, rfl⟩
  | submitTunnel => exact h.answers_submitTunnel
  | confirmDelete => exact h.answers_confirmDelete
  | action tunnel action => exact .inl ⟨_, .action tunnel action (hlisted tunnel rfl), rfl⟩
  | confirmDisconnect => exact .inl ⟨_, .disconnect, rfl⟩
  | confirmUpgrade => exact .inl ⟨_, .upgrade, rfl⟩
  | retry | openDisconnect | closeDisconnect | openAdd | edit _ | closeModal | fill _ _ _
  | delete _ | closeDelete | escape => exact .inr ⟨nofun, rfl⟩

/-- Only the user makes the page send something that changes something, and a reload forgets it. -/
theorem pageStep_sent {inlineStyles : Bool} {p p' : App} {event : PageEvent}
    (hstep : pageStep inlineStyles p event = some p') :
    p'.sent = p.sent ∨ (event = .reload ∧ p'.sent = []) ∨
      ∃ action, event = .user action ∧ p' = p.handle action ∧
        ∀ t, action.tunnel = some t → t ∈ p.listed := by
  unfold pageStep at hstep
  cases event with
  | user event =>
    dsimp only at hstep
    split_ifs at hstep with hbutton hlisted
    obtain rfl := Option.some.inj hstep
    refine .inr (.inr ⟨event, rfl, rfl, fun t ht => ?_⟩)
    rw [ht] at hlisted
    exact not_not.mp fun hnot => hlisted (decide_eq_true hnot)
  | replied reply =>
    dsimp only at hstep
    split_ifs at hstep
    obtain rfl := Option.some.inj hstep
    exact .inl (App.resume_sent _ reply)
  | tick id =>
    dsimp only at hstep
    split at hstep
    · obtain rfl := Option.some.inj hstep
      exact .inl rfl
    · obtain rfl := Option.some.inj hstep
      refine .inl ?_
      unfold App.pollTick
      dsimp only
      split_ifs <;> rfl
    · cases hstep
  | reload =>
    dsimp only at hstep
    split_ifs at hstep
    obtain rfl := Option.some.inj hstep
    exact .inr (.inl ⟨rfl, rfl⟩)

/-- Every event sends what the user asks for. -/
theorem App.Keeps.sends {inlineStyles : Bool} {p p' : App} (h : p.Keeps inlineStyles p.disabled)
    {event : PageEvent} (hstep : pageStep inlineStyles p event = some p') :
    SendsShown p event p' := by
  have hsent := pageStep_sent hstep
  cases event with
  | user event =>
    unfold pageStep at hstep
    dsimp only at hstep
    split_ifs at hstep with hbutton hlisted
    obtain rfl := Option.some.inj hstep
    refine h.answers event fun t ht => ?_
    rw [ht] at hlisted
    exact not_not.mp fun hnot => hlisted (decide_eq_true hnot)
  | replied reply | tick id =>
    rcases hsent with hsame | ⟨hreload, -⟩ | ⟨action, haction, -⟩
    · exact hsame
    · cases hreload
    · cases haction
  | reload =>
    unfold pageStep at hstep
    dsimp only at hstep
    split_ifs at hstep
    obtain rfl := Option.some.inj hstep
    rfl

/-- In whatever order clicks, replies and intervals come, the page is consistent, and sends exactly
what the user asks for. -/
theorem page_consistent (inlineStyles : Bool) (events : List PageEvent) :
    Transition.Visits (pageStep inlineStyles) (App.Consistent inlineStyles) (.load inlineStyles)
        events ∧
      Transition.Steps (pageStep inlineStyles) SendsShown (.load inlineStyles) events := by
  have hany : Transition.Meets (pageStep inlineStyles) (fun _ _ => True) (.load inlineStyles)
      events :=
    Transition.Steps.of_forall (fun _ _ _ _ => trivial) _
  obtain ⟨hsteps, hkeeps⟩ := Transition.holds_of_meets (Q := SendsShown)
    (fun p event p' (h : p.Keeps inlineStyles p.disabled) _ hstep =>
      ⟨h.step hstep, h.sends hstep⟩) (App.keeps_load inlineStyles) hany
  refine ⟨hkeeps.mono fun p h => ?_, hsteps⟩
  exact ⟨h.screens, h.polls.running, h.buttons, h.delete, h.modal⟩

end ZoTunnel.ClientPage
