import ZoTunnel.Client.ManagerMoves
import ZoTunnel.Client.Status
import ZoTunnel.Server.Metrics

/-!
# The list of tunnels in the web UI

`list_tunnels` in `tunnel_manager.rs`, which answers `GET /api/tunnels`, among the requests that
change the tunnels and the tasks that send their statuses. The statuses are read one by one, so
that the steps of the others can come between two of them.

`listings_faithful` says what a response shows, whatever the order of the steps. In particular a
tunnel is shown with an error only when its task is between two sends, and not while it waits to
reconnect.
-/

namespace ZoTunnel

open TunnelManager

/-! ## The response -/

/-- Serializable status for the API. -/
structure TunnelStatusInfo where
  /-- Server connection state: "connected", "connecting", "error", "stopped". -/
  state : String
  route : Option String
  connectedSinceSecs : Option ℕ
  error : Option String
  /-- Whether the local service is reachable. -/
  localReachable : Bool
  deriving DecidableEq, Repr

/-- `TunnelStatusInfo::from_status`, at a time. -/
def TunnelStatusInfo.fromStatus (status : TunnelStatus) (localReachable : Bool) (now : Instant) :
    TunnelStatusInfo :=
  match status with
  | .stopped => ⟨"stopped", none, none, none, localReachable⟩
  | .connecting => ⟨"connecting", none, none, none, localReachable⟩
  | .connected route since =>
    ⟨"connected", some route, some (secsSince now since), none, localReachable⟩
  | .error message => ⟨"error", none, none, some message, localReachable⟩

/-- Info returned by the API for each tunnel. -/
structure TunnelInfo where
  id : String
  clientId : String
  localAddr : String
  enabled : Bool
  status : TunnelStatusInfo
  deriving DecidableEq, Repr

/-- The entry of the config that a line of the response is about. -/
def TunnelInfo.entry (info : TunnelInfo) : TunnelEntry :=
  ⟨info.id, info.clientId, info.localAddr, info.enabled⟩

/-- An entry of the config with its status. -/
structure Snapshot where
  entry : TunnelEntry
  status : TunnelStatus
  /-- Where the task of the tunnel stood, if there was a handle. The response does not have it. -/
  point : Option TaskPoint
  deriving DecidableEq, Repr

/-- A line of the response, from whether the local service is reachable, and the time. -/
def Snapshot.info (snapshot : Snapshot) (check : Bool × Instant) : TunnelInfo :=
  ⟨snapshot.entry.id, snapshot.entry.clientId, snapshot.entry.localAddr, snapshot.entry.enabled,
    .fromStatus snapshot.status check.1 check.2⟩

/-- A response with what it was made of. -/
structure Listing where
  /-- The config, as it was read. -/
  entries : List TunnelEntry
  snapshots : List Snapshot
  infos : List TunnelInfo
  deriving DecidableEq, Repr

/-! ## The requests -/

/-- How far a request for the list has come. -/
inductive ListRequest where
  | idle
  /-- It has the manager, and waits for the lock of the config. -/
  | waiting (mgr : ℕ)
  /-- It has read these entries, and reads the statuses of the rest of them. -/
  | collecting (mgr : ℕ) (entries rest : List TunnelEntry) (taken : List Snapshot)
  /-- It waits for the checks of the local services. -/
  | checking (entries : List TunnelEntry) (snapshots : List Snapshot)
  | listed (listing : Listing)
  /-- There is no manager. -/
  | refused (error : Error)
  | dropped
  deriving DecidableEq, Repr

/-- A step of a request for the list, with what the environment decides in it. -/
inductive ListStep where
  /-- The request has the lock of `inner`. -/
  | request
  /-- It has the lock of the config. -/
  | read
  /-- It reads the next status. -/
  | snapshot
  /-- It responds: a check for each tunnel, and the time at which its line is made. -/
  | respond (checks : List (Bool × Instant))
  /-- The request is dropped at an await point. -/
  | drop
  deriving DecidableEq, Repr

/-- The client with its tunnel tasks and the requests for the list. -/
structure Ui where
  app : AppState
  tunnelTasks : ℕ → TunnelTask
  lists : ℕ → ListRequest

/-- The client when the web server starts. -/
def Ui.new (saved : Option TunnelsConfig) : Ui := ⟨.new saved, fun _ => .new, fun _ => .idle⟩

/-- The snapshot of an entry: its status is the one that the channel of its handle holds. -/
def Ui.snapshot (ui : Ui) (mgr : ℕ) (entry : TunnelEntry) : Snapshot :=
  match (ui.app.managers mgr).tunnels.lookup entry.id with
  | some handle =>
    let task := ui.tunnelTasks handle.task
    ⟨entry, task.status, some task.point⟩
  | none => ⟨entry, .stopped, none⟩

/-- One step of a request for the list. -/
def Ui.listStep (ui : Ui) (request : ListRequest) (l : ListStep) : Option ListRequest :=
  match l, request with
  | .request, .idle =>
    match ui.app.inner with
    | some mgr => some (.waiting mgr)
    | none => some (.refused "Not connected. Please connect first.")
  | .read, .waiting mgr =>
    let entries := (ui.app.managers mgr).config.tunnels
    some (.collecting mgr entries entries [])
  | .snapshot, .collecting mgr entries (entry :: rest) taken =>
    some (.collecting mgr entries rest (taken ++ [ui.snapshot mgr entry]))
  | .snapshot, .collecting _ entries [] taken => some (.checking entries taken)
  | .respond checks, .checking entries snapshots =>
    -- `join_all` has a result for each of its futures, in their order.
    if checks.length = snapshots.length then
      some (.listed ⟨entries, snapshots, List.zipWith Snapshot.info snapshots checks⟩)
    else none
  | .drop, .waiting _ | .drop, .checking _ _ => some .dropped
  | _, _ => none

/-- A step of the client. -/
inductive UiStep where
  /-- A request that changes the tunnels. -/
  | app (l : AppStep)
  /-- The task of a tunnel. -/
  | task (task : ℕ) (l : TunnelTaskStep)
  /-- A request for the list. -/
  | list (rid : ℕ) (l : ListStep)

/-- The tasks after a step of a request: those that it has stopped are cancelled. -/
def cancelStopped (tasks tasks' : Tasks) (tunnelTasks : ℕ → TunnelTask) (task : ℕ) : TunnelTask :=
  if (tasks.running task).isSome ∧ tasks'.running task = none then
    { tunnelTasks task with cancelled := true }
  else tunnelTasks task

variable (tls : ℕ → Bool) (debug : Message → String)

/-- One step of the client. `tls` says which tasks use TLS. -/
def uiStep (ui : Ui) : UiStep → Option Ui
  | .app l =>
    (appStep ui.app l).map fun app =>
      { ui with app, tunnelTasks := cancelStopped ui.app.tasks app.tasks ui.tunnelTasks }
  | .task task l =>
    if task < ui.app.tasks.next then
      (tunnelTaskStep (tls task) debug (ui.tunnelTasks task) l).map fun t =>
        { ui with tunnelTasks := Function.update ui.tunnelTasks task t }
    else none
  | .list rid l =>
    (ui.listStep (ui.lists rid) l).map fun request =>
      { ui with lists := Function.update ui.lists rid request }

/-! ## What a response shows -/

/-- What holds of a snapshot. The task of a tunnel with a handle has not been cancelled. -/
structure Snapshot.Sound (snapshot : Snapshot) : Prop where
  stopped : snapshot.point = none → snapshot.status = .stopped
  shows : ∀ point, snapshot.point = some point →
    point.Shows snapshot.status ∧ point ≠ .ended ∧ point ≠ .cancelSeen

/-- What holds of a request for the list: it has a snapshot of the entries, in their order. -/
def ListRequest.Sound : ListRequest → Prop
  | .collecting _ entries rest taken =>
    taken.map (·.entry) ++ rest = entries ∧ ∀ snapshot ∈ taken, snapshot.Sound
  | .checking entries snapshots =>
    snapshots.map (·.entry) = entries ∧ ∀ snapshot ∈ snapshots, snapshot.Sound
  | .listed listing =>
    listing.snapshots.map (·.entry) = listing.entries ∧
      (∀ snapshot ∈ listing.snapshots, snapshot.Sound) ∧
      ∃ checks : List (Bool × Instant), checks.length = listing.snapshots.length ∧
        listing.infos = List.zipWith Snapshot.info listing.snapshots checks
  | .idle | .waiting _ | .refused _ | .dropped => True

/-- What holds of the client: the task of a handle is not cancelled, and every task shows where it
stands. -/
structure Ui.Sound (ui : Ui) : Prop where
  handled : ui.app.Handled
  shows : ∀ task, ShowsPoint (ui.tunnelTasks task)
  running : ∀ task, (ui.app.tasks.running task).isSome → (ui.tunnelTasks task).cancelled = false
  fresh : ∀ task, ui.app.tasks.next ≤ task → ui.tunnelTasks task = .new
  lists : ∀ rid, (ui.lists rid).Sound

/-- The client starts so. -/
theorem Ui.sound_new (saved : Option TunnelsConfig) : (Ui.new saved).Sound :=
  ⟨AppState.handled_new saved, fun _ => showsPoint_new, fun _ _ => rfl, fun _ _ => rfl,
    fun _ => trivial⟩

variable {ui ui' : Ui}

/-- A snapshot shows the task of the tunnel. -/
theorem Ui.Sound.snapshot (h : ui.Sound) (mgr : ℕ) (entry : TunnelEntry) :
    (ui.snapshot mgr entry).Sound := by
  unfold Ui.snapshot
  cases hlookup : (ui.app.managers mgr).tunnels.lookup entry.id with
  | none => exact ⟨fun _ => rfl, nofun⟩
  | some handle =>
    refine ⟨nofun, fun point hpoint => ?_⟩
    obtain rfl := Option.some.inj hpoint
    -- The task of a handle runs, so that it has not been cancelled.
    have hrun := (h.handled.running mgr entry.id handle hlookup).2
    have hnot := h.running handle.task (by rw [hrun]; rfl)
    have hshows := h.shows handle.task
    have hended : ¬ ((ui.tunnelTasks handle.task).point = .ended ∨
        (ui.tunnelTasks handle.task).point = .cancelSeen) := by
      intro hended
      have hcancelled := hshows.ended hended
      rw [hnot] at hcancelled
      cases hcancelled
    exact ⟨hshows.shows, fun hend => hended (.inl hend), fun hend => hended (.inr hend)⟩

/-- What a request for the list reads in a step: the manager that is installed, the config of its
manager, the point of the task that the handle of the next entry has, or nothing. -/
inductive Ui.Reads (ui : Ui) : ListRequest → ListRequest → Prop where
  | installed {mgr : ℕ} (h : ui.app.inner = some mgr) : ui.Reads .idle (.waiting mgr)
  | refused {error : Error} (h : ui.app.inner = none) : ui.Reads .idle (.refused error)
  | config {mgr : ℕ} {entries : List TunnelEntry}
      (h : (ui.app.managers mgr).config.tunnels = entries) :
      ui.Reads (.waiting mgr) (.collecting mgr entries entries [])
  | point {mgr : ℕ} {entries rest : List TunnelEntry} {entry : TunnelEntry}
      {taken : List Snapshot} {snapshot : Snapshot} (hentry : snapshot.entry = entry)
      (h : snapshot.point = ((ui.app.managers mgr).tunnels.lookup entry.id).map
        fun handle => (ui.tunnelTasks handle.task).point) :
      ui.Reads (.collecting mgr entries (entry :: rest) taken)
        (.collecting mgr entries rest (taken ++ [snapshot]))
  | collected {mgr : ℕ} {entries : List TunnelEntry} {taken : List Snapshot} :
      ui.Reads (.collecting mgr entries [] taken) (.checking entries taken)
  | listed {entries : List TunnelEntry} {snapshots : List Snapshot} {infos : List TunnelInfo} :
      ui.Reads (.checking entries snapshots) (.listed ⟨entries, snapshots, infos⟩)
  | dropped {request : ListRequest} : ui.Reads request .dropped

/-- A step reads for no request but its own. -/
def ListReads (ui : Ui) (l : UiStep) (ui' : Ui) : Prop :=
  ∀ rid, ui'.lists rid = ui.lists rid ∨
    ui.Reads (ui.lists rid) (ui'.lists rid) ∧ ∃ l', l = .list rid l'

/-- The snapshot of an entry has the point of the task of its handle. -/
theorem Ui.snapshot_point (ui : Ui) (mgr : ℕ) (entry : TunnelEntry) :
    (ui.snapshot mgr entry).entry = entry ∧
      (ui.snapshot mgr entry).point = ((ui.app.managers mgr).tunnels.lookup entry.id).map
        fun handle => (ui.tunnelTasks handle.task).point := by
  unfold snapshot
  cases (ui.app.managers mgr).tunnels.lookup entry.id with
  | none => exact ⟨rfl, rfl⟩
  | some handle => exact ⟨rfl, rfl⟩

/-- A step of a request for the list reads what the client has at that time. -/
theorem Ui.reads_of_listStep {request request' : ListRequest} {l : ListStep}
    (hstep : ui.listStep request l = some request') : ui.Reads request request' := by
  cases request with
  | idle =>
    cases l with
    | request =>
      unfold Ui.listStep at hstep
      dsimp only at hstep
      split at hstep
      · rename_i mgr hinner
        obtain rfl := Option.some.inj hstep
        exact .installed hinner
      · rename_i hinner
        obtain rfl := Option.some.inj hstep
        exact .refused hinner
    | _ => cases hstep
  | waiting mgr =>
    cases l with
    | read =>
      cases hstep
      exact .config rfl
    | drop =>
      cases hstep
      exact .dropped
    | _ => cases hstep
  | collecting mgr entries rest taken =>
    cases l with
    | snapshot =>
      cases rest with
      | nil =>
        cases hstep
        exact .collected
      | cons entry rest =>
        cases hstep
        obtain ⟨hentry, hpoint⟩ := ui.snapshot_point mgr entry
        exact .point hentry hpoint
    | _ => cases hstep
  | checking entries snapshots =>
    cases l with
    | respond checks =>
      unfold Ui.listStep at hstep
      dsimp only at hstep
      split_ifs at hstep
      obtain rfl := Option.some.inj hstep
      exact .listed
    | drop =>
      cases hstep
      exact .dropped
    | _ => cases hstep
  | listed _ | refused _ | dropped => cases l <;> cases hstep

/-- Every step of the client reads for its request only. -/
theorem Ui.listReads_of_step {l : UiStep} (hstep : uiStep tls debug ui l = some ui') :
    ListReads ui l ui' := by
  intro rid
  cases l with
  | app l =>
    obtain ⟨app, -, rfl⟩ := Option.map_eq_some_iff.mp hstep
    exact .inl rfl
  | task task l =>
    unfold uiStep at hstep
    dsimp only at hstep
    split_ifs at hstep
    obtain ⟨t, -, rfl⟩ := Option.map_eq_some_iff.mp hstep
    exact .inl rfl
  | list rid' l =>
    obtain ⟨request, hrequest, rfl⟩ := Option.map_eq_some_iff.mp hstep
    dsimp only
    rcases eq_or_ne rid rid' with rfl | hne
    · rw [Function.update_self]
      exact .inr ⟨Ui.reads_of_listStep hrequest, l, rfl⟩
    · exact .inl (Function.update_of_ne hne ..)

/-- Every step of a request for the list keeps what holds of it. -/
theorem Ui.Sound.listStep (h : ui.Sound) {request request' : ListRequest} {l : ListStep}
    (hrequest : request.Sound) (hstep : ui.listStep request l = some request') :
    request'.Sound := by
  cases request with
  | idle =>
    cases l with
    | request =>
      unfold Ui.listStep at hstep
      dsimp only at hstep
      split at hstep <;> obtain rfl := Option.some.inj hstep <;> trivial
    | _ => cases hstep
  | waiting mgr =>
    cases l with
    | read =>
      cases hstep
      exact ⟨rfl, nofun⟩
    | drop =>
      cases hstep
      trivial
    | _ => cases hstep
  | collecting mgr entries rest taken =>
    obtain ⟨hentries, htaken⟩ := hrequest
    cases l with
    | snapshot =>
      cases rest with
      | nil =>
        cases hstep
        rw [List.append_nil] at hentries
        exact ⟨hentries, htaken⟩
      | cons entry rest =>
        cases hstep
        have hentry := (ui.snapshot_point mgr entry).1
        refine ⟨?_, fun snapshot hmem => ?_⟩
        · rw [List.map_append, List.map_singleton, hentry, List.append_assoc]
          exact hentries
        · rcases List.mem_append.mp hmem with hmem | hmem
          · exact htaken snapshot hmem
          · rw [List.mem_singleton.mp hmem]
            exact h.snapshot mgr entry
    | _ => cases hstep
  | checking entries snapshots =>
    cases l with
    | respond checks =>
      unfold Ui.listStep at hstep
      dsimp only at hstep
      split_ifs at hstep with hlength
      obtain rfl := Option.some.inj hstep
      exact ⟨hrequest.1, hrequest.2, checks, hlength, rfl⟩
    | drop =>
      cases hstep
      trivial
    | _ => cases hstep
  | listed _ | refused _ | dropped => cases l <;> cases hstep

/-- Every step of the client keeps what holds of it. -/
theorem Ui.Sound.step (h : ui.Sound) {l : UiStep} (hstep : uiStep tls debug ui l = some ui') :
    ui'.Sound := by
  cases l with
  | app l =>
    obtain ⟨app, happ, rfl⟩ := Option.map_eq_some_iff.mp hstep
    have hmoves := AppState.appStep_moves happ
    have hgrown := AppState.grown_of_moves hmoves
    refine ⟨AppState.inv_of_moves (fun _ _ h hmove => h.move hmove) hmoves h.handled,
      fun task => ?_, fun task hrun => ?_, fun task htask => ?_, h.lists⟩
    · dsimp only
      unfold cancelStopped
      split_ifs
      · exact (h.shows task).cancel
      · exact h.shows task
    · dsimp only at hrun ⊢
      obtain ⟨entry, hrun⟩ := Option.isSome_iff_exists.mp hrun
      unfold cancelStopped
      rw [if_neg (by rw [hrun]; simp)]
      rcases hgrown.running task entry hrun with hold | hnew
      · exact h.running task (by rw [hold]; rfl)
      · rw [h.fresh task hnew]
        rfl
    · have hnext : ui.app.tasks.next ≤ task := hgrown.next.trans htask
      dsimp only
      unfold cancelStopped
      rw [if_neg (by rw [h.handled.fresh task hnext]; simp)]
      exact h.fresh task hnext
  | task task l =>
    unfold uiStep at hstep
    dsimp only at hstep
    split_ifs at hstep with hlt
    obtain ⟨t, ht, rfl⟩ := Option.map_eq_some_iff.mp hstep
    refine ⟨h.handled, fun task' => ?_, fun task' hrun => ?_, fun task' hfresh => ?_, h.lists⟩
    · dsimp only
      rw [Function.update_apply]
      split_ifs
      · exact (h.shows task).step ht
      · exact h.shows task'
    · dsimp only
      rw [Function.update_apply]
      split_ifs with heq
      · rw [cancelled_step ht]
        exact h.running task (heq ▸ hrun)
      · exact h.running task' hrun
    · have hne : task' ≠ task := by
        dsimp only at hfresh
        omega
      dsimp only
      rw [Function.update_of_ne hne]
      exact h.fresh task' hfresh
  | list rid l =>
    obtain ⟨request, hrequest, rfl⟩ := Option.map_eq_some_iff.mp hstep
    refine ⟨h.handled, h.shows, h.running, h.fresh, fun rid' => ?_⟩
    dsimp only
    rw [Function.update_apply]
    split_ifs
    · exact h.listStep (h.lists rid) hrequest
    · exact h.lists rid'

/-! ## The lines of a response -/

/-- What a line says of the task of its tunnel, where this stood when its status was read. -/
structure Snapshot.Shown (snapshot : Snapshot) (info : TunnelInfo) : Prop where
  entry : info.entry = snapshot.entry
  /-- Without a handle a tunnel is shown as stopped. -/
  stopped : snapshot.point = none → info.status.state = "stopped"
  /-- A tunnel in the accept loop is shown with its route. -/
  accept : ∀ route since, snapshot.point = some (.accept route since) →
    info.status.state = "connected" ∧ info.status.route = some route
  /-- A tunnel is shown as connected in the accept loop, or when its session has just ended. -/
  connected : info.status.state = "connected" → ∃ route, info.status.route = some route ∧
    ((∃ since, snapshot.point = some (.accept route since)) ∨ snapshot.point = some .succeeded)
  /-- The last error is not shown while the task waits to reconnect. -/
  sleep : snapshot.point = some .sleep →
    info.status.state = "connecting" ∧ info.status.error = none
  /-- An error is shown between two sends, where the task does not wait. -/
  error : ∀ message, info.status.error = some message →
    snapshot.point = some (.errored message) ∨ snapshot.point = some .checkCancel

/-- The lines of a response are those of the entries of the config, in their order. -/
structure Listing.Faithful (listing : Listing) : Prop where
  entries : listing.infos.map (·.entry) = listing.entries
  shown : List.Forall₂ Snapshot.Shown listing.snapshots listing.infos

/-- A line shows the status that was read. -/
theorem Snapshot.Sound.shown {snapshot : Snapshot} (h : snapshot.Sound) (check : Bool × Instant) :
    snapshot.Shown (snapshot.info check) := by
  obtain ⟨entry, status, point⟩ := snapshot
  obtain ⟨hstopped, hshows⟩ := h
  dsimp only at hstopped hshows
  refine ⟨rfl, fun hpoint => ?_, fun route since hpoint => ?_, fun hstate => ?_, fun hpoint => ?_,
    fun message herror => ?_⟩
  · unfold info
    rw [hstopped hpoint]
    rfl
  · have hstatus : status = .connected route since := (hshows _ hpoint).1
    unfold info
    rw [hstatus]
    exact ⟨rfl, rfl⟩
  · cases status with
    | connected route since =>
      refine ⟨route, rfl, ?_⟩
      dsimp only
      cases point with
      | none => cases hstopped rfl
      | some point =>
        obtain ⟨hpoint, hended, hseen⟩ := hshows point rfl
        cases point with
        | accept route' since' =>
          cases hpoint
          exact .inl ⟨since, rfl⟩
        | succeeded => exact .inr rfl
        | ended => exact absurd rfl hended
        | cancelSeen => exact absurd rfl hseen
        | checkCancel =>
          obtain hpoint | ⟨message, hpoint⟩ := hpoint <;> cases hpoint
        | _ => cases hpoint
    | _ => simp [info, TunnelStatusInfo.fromStatus] at hstate
  · have hstatus : status = .connecting := (hshows _ hpoint).1
    unfold info
    rw [hstatus]
    exact ⟨rfl, rfl⟩
  · cases status with
    | error message' =>
      obtain rfl : message' = message := Option.some.inj herror
      dsimp only
      cases point with
      | none => cases hstopped rfl
      | some point =>
        obtain ⟨hpoint, hended, hseen⟩ := hshows point rfl
        cases point with
        | errored message =>
          cases hpoint
          exact .inl rfl
        | checkCancel => exact .inr rfl
        | ended => exact absurd rfl hended
        | cancelSeen => exact absurd rfl hseen
        | succeeded =>
          obtain hpoint | ⟨route, since, hpoint⟩ := hpoint <;> cases hpoint
        | _ => cases hpoint
    | _ => cases herror

/-- A response whose request was sound shows what was read. -/
theorem ListRequest.Sound.faithful {listing : Listing} (h : (ListRequest.listed listing).Sound) :
    listing.Faithful := by
  obtain ⟨entries, snapshots, infos⟩ := listing
  obtain ⟨hentries, hsound, checks, hlength, hinfos⟩ := h
  dsimp only at hentries hsound hlength hinfos
  have hforall : List.Forall₂ Snapshot.Shown snapshots infos := by
    rw [hinfos]
    clear hentries hinfos
    induction snapshots generalizing checks with
    | nil => exact .nil
    | cons snapshot snapshots ih =>
      obtain ⟨check, checks, rfl⟩ := List.exists_cons_of_length_eq_add_one hlength
      refine .cons ((hsound snapshot List.mem_cons_self).shown check) ?_
      exact ih (fun s hs => hsound s (List.mem_cons_of_mem _ hs)) checks (by simpa using hlength)
  refine ⟨?_, hforall⟩
  dsimp only
  rw [← hentries]
  clear hentries hsound hinfos hlength
  induction hforall with
  | nil => rfl
  | cons hshown _ ih => rw [List.map_cons, List.map_cons, hshown.entry, ih]

/-- Along every interleaving of the requests and of the tunnel tasks, every response to a request
for the list shows the tunnels of the config that it has read, each as the task of its own handle
stood when its status was read. -/
theorem listings_faithful (saved : Option TunnelsConfig) (labels : List UiStep) :
    Transition.Visits (uiStep tls debug)
        (fun ui => ∀ rid listing, ui.lists rid = .listed listing → listing.Faithful)
        (.new saved) labels ∧
      Transition.Steps (uiStep tls debug) ListReads (.new saved) labels := by
  have hany : Transition.Meets (uiStep tls debug) (fun _ _ => True) (.new saved) labels :=
    Transition.Steps.of_forall (fun _ _ _ _ => trivial) _
  obtain ⟨hreads, hsound⟩ := Transition.holds_of_meets (Q := ListReads)
    (fun ui l ui' (h : ui.Sound) _ hstep =>
      ⟨h.step tls debug hstep, Ui.listReads_of_step tls debug hstep⟩)
    (Ui.sound_new saved) hany
  refine ⟨hsound.mono fun ui h rid listing hlisting => ?_, hreads⟩
  have hrequest := h.lists rid
  rw [hlisting] at hrequest
  exact hrequest.faithful

end ZoTunnel
