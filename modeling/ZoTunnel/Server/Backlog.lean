import ZoTunnel.Server.YamuxDriver

/-!
# Opening streams

The body of the command arm waits in `poll_new_outbound`, and acknowledgements are only taken in
while the connection is polled, in `selecting`. So a driver that takes a command while its backlog
is full waits forever: `waiting_forever` says that no step leads out. The arm of the heartbeat
bounds the same wait by its 10 s. `opening_leaves_iff` says along which runs the driver can always
leave the wait.
-/

namespace ZoTunnel

open Mux Transition

variable {K : ℕ}

/-- A driver that waits to open a stream can still leave the wait. -/
def CanLeave (K : ℕ) (s : Tunnel) : Prop :=
  ∀ reply, s.driver.phase = .openStream reply →
    ∃ labels s', exec (tunnelStep K) s labels = some s' ∧ s'.driver.phase ≠ .openStream reply

/-- The driver takes a command only while it has fewer than `K` streams that are not acknowledged.
-/
def RoomToOpen (K : ℕ) (s : Tunnel) : TunnelStep → Prop
  | .driver .recvCommand => s.driver.conn.ackBacklog < K
  | _ => True

/-- The driver waits with a full backlog. -/
def Stuck (K : ℕ) (reply : ℕ) (s : Tunnel) : Prop :=
  s.driver.phase = .openStream reply ∧ K ≤ s.driver.conn.ackBacklog

/-- While the driver waits with a full backlog, no step ends the wait or makes room. -/
theorem Stuck.step {reply : ℕ} {s s' : Tunnel} {l : TunnelStep} (h : Stuck K reply s)
    (hstep : tunnelStep K s l = some s') : Stuck K reply s' := by
  obtain ⟨hphase, hfull⟩ := h
  have hrule := tunnelStep_cases hstep
  unfold Stuck
  generalize s'.driver = d' at hrule ⊢
  cases hrule with
  | own hown =>
    -- The driver itself waits for `poll_new_outbound`, which is pending.
    cases driverStep_cases hown with
    | opened reply' _ hroom | openFailed reply' _ hroom => omega
    | inboundError hother | inboundClosed hother | recvCommand _ _ hother | recvNone hother
    | tick hother | heartbeatOpened hother | heartbeatWritten _ hother
    | heartbeatPong _ _ _ hother | heartbeatClosed _ hother =>
      rw [hphase] at hother
      cases hother
    | heartbeatMissed _ hbeat =>
      rw [hphase] at hbeat
      exact hbeat.elim nofun fun hstream => absurd rfl hstream
  | send hselecting | receive hselecting =>
    rw [hphase] at hselecting
    cases hselecting
  | proxy hproxy =>
    have hframe := proxyStep_frame hproxy
    exact ⟨hframe.phase.trans hphase, by rw [hframe.ackBacklog]; exact hfull⟩
  | task | clientSend | clientReceive => exact ⟨hphase, hfull⟩

/-- Whatever the client acknowledges, and whatever else happens, the wait goes on. -/
theorem waiting_forever {reply : ℕ} {s s' : Tunnel} {labels : List TunnelStep}
    (h : Stuck K reply s) (hrun : exec (tunnelStep K) s labels = some s') :
    s'.driver.phase = .openStream reply :=
  (exec_invariant (fun _ _ _ hs hstep => Stuck.step hs hstep) h hrun).1

/-- The driver can leave its wait exactly while the backlog is not full. -/
theorem canLeave_iff {s : Tunnel} : CanLeave K s ↔ ∀ reply, ¬ Stuck K reply s := by
  constructor
  · intro hleave reply hstuck
    obtain ⟨labels, s', hrun, hphase⟩ := hleave reply hstuck.1
    exact hphase (waiting_forever hstuck hrun)
  · intro hroom reply hphase
    have hlt : s.driver.conn.ackBacklog < K := by
      by_contra hfull
      exact hroom reply ⟨hphase, by omega⟩
    have hpoll := Conn.pollNewOutbound_eq_some.mpr ⟨hlt, rfl⟩
    have hstep : tunnelStep K s (.driver (.opened true)) = some { s with
        driver := { s.driver with
          conn := s.driver.conn.openStream, phase := .selecting
          held := s.driver.conn.nextId :: s.driver.held } } := by
      simp only [tunnelStep, driverStep, hphase, hpoll, Option.map_some]
    exact ⟨[.driver (.opened true)], _, exec_cons.mpr ⟨_, hstep, rfl⟩, nofun⟩

/-- The driver gets into the wait by taking a command, which leaves its connection as it is. -/
theorem driverStep_openStream {d d' : YamuxDriver} {l : DriverStep} {reply : ℕ}
    (h : driverStep K d l = some d') (hphase : d'.phase = .openStream reply) :
    l = .recvCommand ∧ d'.conn = d.conn := by
  cases driverStep_cases h with
  | recvCommand => exact ⟨rfl, rfl⟩
  | heartbeatMissed =>
    unfold YamuxDriver.heartbeatMissed at hphase
    dsimp only at hphase
    split_ifs at hphase
  | _ => cases hphase

/-- Taking a command gets the driver into the wait. -/
theorem driverStep_recvCommand {d d' : YamuxDriver} (h : driverStep K d .recvCommand = some d') :
    ∃ reply, d'.phase = .openStream reply ∧ d'.conn = d.conn := by
  cases driverStep_cases h with
  | recvCommand reply cmdRx => exact ⟨reply, rfl, rfl⟩
  | heartbeatMissed hfails => cases hfails

/-- The driver can leave every wait for a stream along exactly the runs in which it takes every
command with room in its backlog. -/
theorem opening_leaves_iff (K : ℕ) (supportsHeartbeat : Bool) (labels : List TunnelStep) :
    Visits (tunnelStep K) (CanLeave K) (.new supportsHeartbeat) labels ↔
      Meets (tunnelStep K) (RoomToOpen K) (.new supportsHeartbeat) labels := by
  refine visits_iff_meets (I := fun s => ∀ reply, ¬ Stuck K reply s) ?_
    (fun s h => canLeave_iff.mpr h) ?_ (fun reply hstuck => by cases hstuck.1) labels
  · intro s l s' hfree hroom hstep reply hstuck
    obtain ⟨hphase, hfull⟩ := hstuck
    have hrule := tunnelStep_cases hstep
    generalize s'.driver = d' at hrule hphase hfull
    cases hrule with
    | own hown =>
      -- The wait has just begun, with the command that the driver has taken.
      obtain ⟨rfl, hconn⟩ := driverStep_openStream hown hphase
      have hlt : s.driver.conn.ackBacklog < K := hroom
      rw [hconn] at hfull
      omega
    | send hselecting | receive hselecting =>
      rw [hselecting] at hphase
      cases hphase
    | proxy hproxy =>
      have hframe := proxyStep_frame hproxy
      rw [hframe.phase] at hphase
      rw [hframe.ackBacklog] at hfull
      exact hfree reply ⟨hphase, hfull⟩
    | task | clientSend | clientReceive => exact hfree reply ⟨hphase, hfull⟩
  · intro s l s' hfree hfull hstep hleave
    have hroom := canLeave_iff.mp hleave
    unfold RoomToOpen at hfull
    split at hfull
    · have hrule := tunnelStep_cases hstep
      generalize hdriver : s'.driver = d' at hrule
      cases hrule with
      | own hown =>
        obtain ⟨reply, hphase, hconn⟩ := driverStep_recvCommand hown
        refine hroom reply ⟨by rw [hdriver, hphase], ?_⟩
        rw [hdriver, hconn]
        omega
    · exact hfull trivial

/-! ## More requests than the backlog holds -/

/-- A proxy request opens a stream. -/
def openSteps (reply : ℕ) : List TunnelStep :=
  [.proxy (.sendCommand reply), .driver .recvCommand, .driver (.opened true)]

/-- `n` requests one after the other. -/
def requestSteps : ℕ → List TunnelStep
  | 0 => []
  | n + 1 => requestSteps n ++ openSteps n

/-- A driver that is ready for a command, with `n` streams that are not acknowledged. -/
def Ready (n : ℕ) (s : Tunnel) : Prop :=
  s.driver.phase = .selecting ∧ s.driver.cmdRx = [] ∧ s.driver.conn.ackBacklog = n

/-- A request puts its command into the channel, and the driver takes it. -/
theorem exec_command {n : ℕ} {s : Tunnel} (h : Ready n s) (reply : ℕ) :
    exec (tunnelStep K) s [.proxy (.sendCommand reply), .driver .recvCommand] =
      some { s with driver := { s.driver with cmdRx := [], phase := .openStream reply } } := by
  obtain ⟨hphase, hcmd, -⟩ := h
  simp [exec, tunnelStep, proxyStep, driverStep, hphase, hcmd, commandCapacity]

/-- While there is room, a request gets its stream. -/
theorem exec_openSteps {n : ℕ} {s : Tunnel} (h : Ready n s) (hroom : n < K) (reply : ℕ) :
    ∃ s', exec (tunnelStep K) s (openSteps reply) = some s' ∧ Ready (n + 1) s' := by
  have hpoll := Conn.pollNewOutbound_eq_some.mpr ⟨h.2.2.trans_lt hroom, rfl⟩
  have hopened : exec (tunnelStep K)
      { s with driver := { s.driver with cmdRx := [], phase := .openStream reply } }
      [.driver (.opened true)] = some { s with
        driver := { s.driver with
          cmdRx := [], conn := s.driver.conn.openStream, phase := .selecting
          held := s.driver.conn.nextId :: s.driver.held } } := by
    simp [exec, tunnelStep, driverStep, hpoll]
  refine ⟨_, exec_append (exec_command h reply) hopened, rfl, rfl, ?_⟩
  show s.driver.conn.openStream.ackBacklog = n + 1
  rw [Conn.ackBacklog_openStream, h.2.2]

/-- Up to `K` requests get their streams, although the client acknowledges none. -/
theorem exec_requestSteps {n : ℕ} (hn : n ≤ K) (supportsHeartbeat : Bool) :
    ∃ s, exec (tunnelStep K) (.new supportsHeartbeat) (requestSteps n) = some s ∧ Ready n s := by
  induction n with
  | zero => exact ⟨_, rfl, rfl, rfl, rfl⟩
  | succ n ih =>
    obtain ⟨s, hrun, hready⟩ := ih (by omega)
    obtain ⟨s', hopen, hready'⟩ := exec_openSteps (K := K) hready (by omega) n
    exact ⟨s', exec_append hrun hopen, hready'⟩

/-- With the 256 streams of yamux open and not acknowledged, one more request locks the driver
up. -/
theorem driver_locks_up :
    ¬ ∀ (supportsHeartbeat : Bool) (labels : List TunnelStep),
      Visits (tunnelStep 256) (CanLeave 256) (.new supportsHeartbeat) labels := by
  intro h
  obtain ⟨s, hrun, hready⟩ := exec_requestSteps (K := 256) le_rfl true
  have hwait := exec_append hrun (exec_command hready 256)
  have hleave := (h true _).last hwait
  exact canLeave_iff.mp hleave 256 ⟨rfl, hready.2.2.ge⟩

end ZoTunnel
