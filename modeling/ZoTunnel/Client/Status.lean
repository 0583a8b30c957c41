import ZoTunnel.Lib.Run
import ZoTunnel.Lib.Text
import ZoTunnel.Client.Backoff

/-!
# The status of a tunnel

The task of a tunnel (`start_tunnel_internal` in `tunnel_manager.rs`, with `run_cancellable` and
`run_session_with_status` in `client.rs`) and the status that it sends to the web UI on a watch
channel. The channel holds the last value sent. A step here is one send, or one wait, so that the
steps of other tasks can come between two sends.

`ShowsPoint` says what the channel holds at each point of the task. The error of a session is sent
twice, and is overwritten before the task waits again.
-/

namespace ZoTunnel

/-- Real-time tunnel status, shared with the web UI. -/
inductive TunnelStatus where
  | stopped
  | connecting
  | connected (route : String) (since : Instant)
  | error (message : String)
  deriving DecidableEq, Repr

/-- The route that a client shows for the response of the server. -/
def AuthRes.route (res : AuthRes) : String :=
  "http://" ++ (Text.stripPrefix res.message "OK — ").getD (res.assignedRoute.getD "-")

/-- Where the task of a tunnel stands. -/
inductive TaskPoint where
  /-- It has been spawned, and has not run yet. -/
  | spawned
  /-- Waits for `TcpStream::connect`. -/
  | connect
  /-- Waits for the TLS handshake. -/
  | tls
  /-- Writes the `AuthReq`. -/
  | writeAuth
  /-- Reads the `AuthRes`. -/
  | readAuth
  /-- Waits for streams in the accept loop. -/
  | accept (route : String) (since : Instant)
  /-- `run_with_status` has returned an error. -/
  | failed (message : String)
  /-- `run_cancellable` has sent the error, and returned it. -/
  | errored (message : String)
  /-- The wait for `cancelled` has ended. -/
  | cancelSeen
  /-- `run_cancellable` has returned `Ok`. -/
  | succeeded
  /-- The loop looks whether the task is cancelled. -/
  | checkCancel
  /-- Sleeps for `backoff_secs`. -/
  | sleep
  | ended
  deriving DecidableEq, Repr

/-- Whether the task waits at a point, so that it can be aborted there. -/
def TaskPoint.waits : TaskPoint → Bool
  | .spawned | .connect | .tls | .writeAuth | .readAuth | .accept _ _ | .sleep => true
  | _ => false

/-- Whether the task waits in the `select!` of `run_cancellable`. -/
def TaskPoint.inSession : TaskPoint → Bool
  | .connect | .tls | .writeAuth | .readAuth | .accept _ _ => true
  | _ => false

/-- The task of a tunnel. -/
structure TunnelTask where
  point : TaskPoint
  /-- What the watch channel holds. -/
  status : TunnelStatus
  /-- Whether the token of the task is cancelled. -/
  cancelled : Bool
  backoffSecs : ℕ
  deriving DecidableEq, Repr

/-- A task that has been spawned. -/
def TunnelTask.new : TunnelTask := ⟨.spawned, .stopped, false, 1⟩

/-- A step of a task, with what the environment decides in it. -/
inductive TunnelTaskStep where
  /-- The task runs for the first time. -/
  | begin
  /-- The wait at this point ends well. -/
  | connected
  | tlsDone
  | authWritten
  /-- A message is read off the connection, at this time. -/
  | authRead (message : Message) (now : Instant)
  /-- The wait fails, with this error. -/
  | fail (message : String)
  /-- The connection ends, or fails, in the accept loop. -/
  | connectionEnd
  /-- The task goes on without waiting. -/
  | go
  | wake
  /-- The `select!` sees that the task is cancelled. -/
  | seeCancel
  /-- The task is aborted. -/
  | abort
  deriving DecidableEq, Repr

variable (tls : Bool) (debug : Message → String)

/-- One step of a task. `tls` says whether the client uses TLS, and `debug` is the text of a message
under `{:?}`. -/
def tunnelTaskStep (t : TunnelTask) (l : TunnelTaskStep) : Option TunnelTask :=
  match l, t.point with
  | .begin, .spawned => some { t with point := .connect, status := .connecting }
  | .connected, .connect => some { t with point := if tls then .tls else .writeAuth }
  | .tlsDone, .tls => some { t with point := .writeAuth }
  | .authWritten, .writeAuth => some { t with point := .readAuth }
  | .authRead (.authRes res) now, .readAuth =>
    if res.success then
      some { t with point := .accept res.route now, status := .connected res.route now }
    else some { t with point := .failed ("Authentication failed: " ++ res.message) }
  | .authRead message _, .readAuth =>
    some { t with point := .failed ("Expected AuthRes, got " ++ debug message) }
  | .fail message, .connect | .fail message, .tls | .fail message, .writeAuth
  | .fail message, .readAuth => some { t with point := .failed message }
  | .connectionEnd, .accept _ _ => some { t with point := .succeeded }
  | .go, .failed message => some { t with point := .errored message, status := .error message }
  | .go, .errored message => some { t with point := .checkCancel, status := .error message }
  | .go, .cancelSeen => some { t with point := .succeeded, status := .stopped }
  | .go, .succeeded => some { t with point := .checkCancel, status := .stopped, backoffSecs := 1 }
  | .go, .checkCancel =>
    if t.cancelled then some { t with point := .ended, status := .stopped }
    else some { t with point := .sleep, status := .connecting }
  | .wake, .sleep =>
    some { t with
      point := .connect, status := .connecting, backoffSecs := min (t.backoffSecs * 2) maxBackoff }
  | .seeCancel, point =>
    if t.cancelled then
      if point.inSession then some { t with point := .cancelSeen }
      else if point = .sleep then some { t with point := .ended, status := .stopped }
      else none
    else none
  | .abort, point => if t.cancelled && point.waits then some { t with point := .ended } else none
  | _, _ => none

/-! ## What the channel holds -/

/-- What a status has to be at a point. -/
def TaskPoint.Shows : TaskPoint → TunnelStatus → Prop
  | .spawned, status => status = .stopped
  | .connect, status | .tls, status | .writeAuth, status | .readAuth, status | .sleep, status =>
    status = .connecting
  | .accept route since, status => status = .connected route since
  | .failed _, status => status = .connecting
  | .errored message, status => status = .error message
  | .succeeded, status => status = .stopped ∨ ∃ route since, status = .connected route since
  | .checkCancel, status => status = .stopped ∨ ∃ message, status = .error message
  | .cancelSeen, status | .ended, status => ∀ message, status ≠ .error message

/-- The channel holds what the task has to show, and the task ends only when it is cancelled. -/
structure ShowsPoint (t : TunnelTask) : Prop where
  shows : t.point.Shows t.status
  ended : t.point = .ended ∨ t.point = .cancelSeen → t.cancelled = true

/-- A task that has not run shows that it is stopped. -/
theorem showsPoint_new : ShowsPoint .new := ⟨rfl, nofun⟩

/-- Cancelling a task does not touch its channel. -/
theorem ShowsPoint.cancel {t : TunnelTask} (h : ShowsPoint t) :
    ShowsPoint { t with cancelled := true } := ⟨h.shows, fun _ => rfl⟩

/-- A task that waits does not show an error. -/
theorem TaskPoint.Shows.ne_error {point : TaskPoint} {status : TunnelStatus}
    (h : point.Shows status) (hpoint : point.waits = true) (message : String) :
    status ≠ .error message := by
  cases point <;> simp_all [Shows, waits]

variable {tls debug}

/-- No step of a task cancels it. -/
theorem cancelled_step {t t' : TunnelTask} {l : TunnelTaskStep}
    (hstep : tunnelTaskStep tls debug t l = some t') : t'.cancelled = t.cancelled := by
  unfold tunnelTaskStep at hstep
  split at hstep <;> (try split_ifs at hstep) <;> cases hstep <;> rfl

/-- Every step of a task keeps what it has to show. -/
theorem ShowsPoint.step {t t' : TunnelTask} {l : TunnelTaskStep} (h : ShowsPoint t)
    (hstep : tunnelTaskStep tls debug t l = some t') : ShowsPoint t' := by
  obtain ⟨point, status, cancelled, backoffSecs⟩ := t
  obtain ⟨hshows, hended⟩ := h
  dsimp only at hshows hended
  cases l with
  | begin =>
    cases point <;> cases hstep
    exact ⟨rfl, nofun⟩
  | connected =>
    cases point <;> cases hstep
    cases tls <;> exact ⟨hshows, nofun⟩
  | tlsDone | authWritten =>
    cases point <;> cases hstep
    exact ⟨hshows, nofun⟩
  | authRead message now =>
    cases point with
    | readAuth =>
      cases message with
      | authRes res =>
        unfold tunnelTaskStep at hstep
        dsimp only at hstep
        split_ifs at hstep <;> obtain rfl := Option.some.inj hstep
        · exact ⟨rfl, nofun⟩
        · exact ⟨hshows, nofun⟩
      | _ =>
        cases hstep
        exact ⟨hshows, nofun⟩
    | _ => cases message <;> cases hstep
  | fail message =>
    cases point <;> cases hstep
    all_goals exact ⟨hshows, nofun⟩
  | connectionEnd =>
    cases point <;> cases hstep
    exact ⟨.inr ⟨_, _, hshows⟩, nofun⟩
  | go =>
    cases point with
    | failed message =>
      cases hstep
      exact ⟨rfl, nofun⟩
    | cancelSeen | succeeded =>
      cases hstep
      exact ⟨.inl rfl, nofun⟩
    | errored message =>
      cases hstep
      exact ⟨.inr ⟨message, rfl⟩, nofun⟩
    | checkCancel =>
      unfold tunnelTaskStep at hstep
      dsimp only at hstep
      split_ifs at hstep with hcancelled <;> obtain rfl := Option.some.inj hstep
      · exact ⟨nofun, fun _ => hcancelled⟩
      · exact ⟨rfl, nofun⟩
    | _ => cases hstep
  | wake =>
    cases point <;> cases hstep
    exact ⟨rfl, nofun⟩
  | seeCancel =>
    unfold tunnelTaskStep at hstep
    dsimp only at hstep
    split_ifs at hstep with hcancelled hsession hsleep <;> obtain rfl := Option.some.inj hstep
    · refine ⟨hshows.ne_error ?_, fun _ => hcancelled⟩
      cases point <;> first | rfl | cases hsession
    · exact ⟨nofun, fun _ => hcancelled⟩
  | abort =>
    unfold tunnelTaskStep at hstep
    dsimp only at hstep
    split_ifs at hstep with hwaits
    obtain rfl := Option.some.inj hstep
    obtain ⟨hcancelled, hwaits⟩ := Bool.and_eq_true_iff.mp hwaits
    exact ⟨hshows.ne_error hwaits, fun _ => hcancelled⟩

end ZoTunnel
