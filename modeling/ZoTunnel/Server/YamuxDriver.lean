import ZoTunnel.Lib.Run
import ZoTunnel.Client.AcceptLoop

/-!
# The yamux driver

`spawn_yamux_driver` (`server.rs`): one task that owns the yamux connection of a client. Its loop
selects among polling the connection, the next `OpenStream` command, and the heartbeat timer. The
body of an arm runs with the other arms dropped, so the connection is polled in phase `selecting`
only: while a body waits, nothing moves between the streams and the socket.

A tunnel is the driver, the client's accept loop, the socket between them, and the proxy requests
that hold streams. `K` is the number of streams that yamux opens without an acknowledgement. The
backlog counts every stream that is not acknowledged, where yamux 0.13 leaves out those that one end
has closed.
-/

namespace ZoTunnel

open Mux

/-- Why the driver's loop ended. -/
inductive DriverEnd where
  /-- `poll_next_inbound` returned an error. -/
  | inboundError
  /-- `poll_next_inbound` returned `None`. -/
  | inboundClosed
  /-- Every `YamuxHandle` was dropped. -/
  | handlesDropped
  /-- Too many heartbeats were missed in a row. -/
  | heartbeat
  deriving DecidableEq, Repr

/-- What the driver is waiting for. -/
inductive DriverPhase where
  /-- All arms of the `select!`. -/
  | selecting
  /-- `poll_new_outbound` in the arm of the commands, to answer `reply`. -/
  | openStream (reply : ℕ)
  /-- `poll_new_outbound` in the arm of the heartbeat. -/
  | heartbeatOpen
  /-- `write_all` of the heartbeat's marker. -/
  | heartbeatWrite (id : ℕ)
  /-- `read_exact` of the pong. -/
  | heartbeatRead (id : ℕ)
  /-- `close` of the heartbeat's stream. -/
  | heartbeatClose (id : ℕ)
  | ended (reason : DriverEnd)
  deriving DecidableEq, Repr

/-- How many heartbeats in a row may be missed. -/
def maxMissed : ℕ := 5

/-- The capacity of the command channel. -/
def commandCapacity : ℕ := 64

/-- The yamux driver of a client, with its connection. -/
structure YamuxDriver where
  supportsHeartbeat : Bool
  conn : Conn
  phase : DriverPhase
  missedHeartbeats : ℕ
  /-- The commands in the channel, by the number of their `reply`. -/
  cmdRx : List ℕ
  /-- The streams that proxy requests hold. -/
  held : List ℕ

/-- A driver after the first tick of its timer. -/
def YamuxDriver.new (supportsHeartbeat : Bool) : YamuxDriver :=
  ⟨supportsHeartbeat, .new, .selecting, 0, [], []⟩

/-! ## The driver's loop -/

/-- A step of the driver that is not a poll of the connection, with what the environment decides. -/
inductive DriverStep where
  | inboundError
  | inboundClosed
  | recvCommand
  /-- `cmd_rx.recv` returns `None`. -/
  | recvNone
  /-- `poll_new_outbound` returns a stream or an error for a command. -/
  | opened (ok : Bool)
  | tick
  | heartbeatOpened (ok : Bool)
  | heartbeatWritten (ok : Bool)
  | heartbeatPong
  /-- The heartbeat's stream ends before the pong. -/
  | heartbeatError
  | heartbeatClosed (ok : Bool)
  /-- The 10 s of the heartbeat are over. -/
  | heartbeatTimeout
  deriving DecidableEq, Repr

/-- The stream of the heartbeat, when it is open. -/
def DriverPhase.heartbeatStream : DriverPhase → Option ℕ
  | .heartbeatWrite id | .heartbeatRead id | .heartbeatClose id => some id
  | _ => none

/-- Drop the heartbeat's stream, if it is open. -/
def YamuxDriver.dropHeartbeat (d : YamuxDriver) : YamuxDriver :=
  match d.phase.heartbeatStream with
  | some id => { d with conn := d.conn.push (.dropped id) }
  | none => d

/-- The heartbeat succeeded. -/
def YamuxDriver.heartbeatOk (d : YamuxDriver) : YamuxDriver :=
  { d.dropHeartbeat with missedHeartbeats := 0, phase := .selecting }

/-- The heartbeat failed or timed out. -/
def YamuxDriver.heartbeatMissed (d : YamuxDriver) : YamuxDriver :=
  let missedHeartbeats := d.missedHeartbeats + 1
  { d.dropHeartbeat with
    missedHeartbeats
    phase := if maxMissed ≤ missedHeartbeats then .ended .heartbeat else .selecting }

/-- One step of the driver. -/
def driverStep (K : ℕ) (d : YamuxDriver) (l : DriverStep) : Option YamuxDriver :=
  match l, d.phase with
  | .inboundError, .selecting => some { d with phase := .ended .inboundError }
  | .inboundClosed, .selecting => some { d with phase := .ended .inboundClosed }
  | .recvCommand, .selecting =>
    match d.cmdRx with
    | reply :: cmdRx => some { d with cmdRx, phase := .openStream reply }
    | [] => none
  | .recvNone, .selecting =>
    if d.cmdRx = [] then some { d with phase := .ended .handlesDropped } else none
  | .opened true, .openStream _ =>
    (d.conn.pollNewOutbound K).map fun conn =>
      { d with conn, phase := .selecting, held := d.conn.nextId :: d.held }
  | .opened false, .openStream _ =>
    (d.conn.pollNewOutbound K).map fun _ => { d with phase := .selecting }
  | .tick, .selecting =>
    if d.supportsHeartbeat then some { d with phase := .heartbeatOpen } else none
  | .heartbeatOpened true, .heartbeatOpen =>
    (d.conn.pollNewOutbound K).map fun conn =>
      { d with conn, phase := .heartbeatWrite d.conn.nextId }
  | .heartbeatOpened false, .heartbeatOpen =>
    (d.conn.pollNewOutbound K).map fun _ => d.heartbeatMissed
  | .heartbeatWritten true, .heartbeatWrite id =>
    some { d with
      conn := d.conn.push (.send (.data id [streamTypeHeartbeat])), phase := .heartbeatRead id }
  | .heartbeatWritten false, .heartbeatWrite _ => some d.heartbeatMissed
  | .heartbeatPong, .heartbeatRead id =>
    (d.conn.read id).map fun (_, conn) => { d with conn, phase := .heartbeatClose id }
  | .heartbeatError, .heartbeatRead id => if d.conn.eof id then some d.heartbeatMissed else none
  | .heartbeatClosed true, .heartbeatClose id =>
    some { d with conn := d.conn.push (.send (.fin id)) }.heartbeatOk
  | .heartbeatClosed false, .heartbeatClose _ => some d.heartbeatMissed
  | .heartbeatTimeout, .heartbeatOpen | .heartbeatTimeout, .heartbeatWrite _
  | .heartbeatTimeout, .heartbeatRead _ | .heartbeatTimeout, .heartbeatClose _ =>
    some d.heartbeatMissed
  | _, _ => none

/-- The connection writes a frame to the socket, in `poll_next_inbound`. -/
def YamuxDriver.send (d : YamuxDriver) : Option (Frame × YamuxDriver) :=
  if d.phase = .selecting then
    d.conn.sendNext.map fun (frame, conn) => (frame, { d with conn })
  else none

/-- The connection takes a frame in from the socket, in `poll_next_inbound`. An inbound stream is
dropped. -/
def YamuxDriver.receive (d : YamuxDriver) (frame : Frame) : Option YamuxDriver :=
  if d.phase = .selecting then
    match d.conn.receive frame with
    | (conn, some id) => some { d with conn := conn.push (.dropped id) }
    | (conn, none) => some { d with conn }
  else none

/-! ## The proxy requests -/

/-- A step of a proxy request on its handle or its stream. -/
inductive ProxyStep where
  /-- `open_stream` sends its command. -/
  | sendCommand (reply : ℕ)
  | write (id : ℕ) (bytes : List UInt8)
  | read (id : ℕ)
  | close (id : ℕ)
  /-- The request drops its stream. -/
  | drop (id : ℕ)
  deriving DecidableEq, Repr

/-- One step of a proxy request. A command waits for room in the channel. -/
def proxyStep (d : YamuxDriver) : ProxyStep → Option YamuxDriver
  | .sendCommand reply =>
    if d.cmdRx.length < commandCapacity then some { d with cmdRx := d.cmdRx ++ [reply] } else none
  | .write id bytes =>
    if id ∈ d.held then some { d with conn := d.conn.push (.send (.data id bytes)) } else none
  | .read id =>
    if id ∈ d.held then (d.conn.read id).map fun (_, conn) => { d with conn } else none
  | .close id =>
    if id ∈ d.held then some { d with conn := d.conn.push (.send (.fin id)) } else none
  | .drop id =>
    if id ∈ d.held then
      some { d with conn := d.conn.push (.dropped id), held := d.held.erase id }
    else none

/-! ## The tunnel -/

/-- A driver and a client, and the frames on the socket between them. -/
structure Tunnel where
  driver : YamuxDriver
  client : ClientSession
  toClient : List Frame
  toServer : List Frame

/-- A tunnel after the handshake. -/
def Tunnel.new (supportsHeartbeat : Bool) : Tunnel := ⟨.new supportsHeartbeat, .new, [], []⟩

/-- A step of a tunnel. -/
inductive TunnelStep where
  | driver (l : DriverStep)
  /-- The driver's connection writes a frame. -/
  | driverSend
  /-- The driver's connection takes a frame in. -/
  | driverReceive
  | task (l : TaskStep)
  /-- The client's connection writes a frame. -/
  | clientSend
  /-- The client's connection takes a frame in. -/
  | clientReceive
  | proxy (l : ProxyStep)
  deriving DecidableEq, Repr

/-- One step of a tunnel. -/
def tunnelStep (K : ℕ) (s : Tunnel) : TunnelStep → Option Tunnel
  | .driver l => (driverStep K s.driver l).map fun driver => { s with driver }
  | .driverSend =>
    s.driver.send.map fun (frame, driver) => { s with driver, toClient := s.toClient ++ [frame] }
  | .driverReceive =>
    match s.toServer with
    | frame :: toServer => (s.driver.receive frame).map fun driver => { s with driver, toServer }
    | [] => none
  | .task l => (s.client.taskStep l).map fun client => { s with client }
  | .clientSend =>
    s.client.conn.sendNext.map fun (frame, conn) =>
      { s with client := { s.client with conn }, toServer := s.toServer ++ [frame] }
  | .clientReceive =>
    match s.toClient with
    | frame :: toClient => some { s with client := s.client.receive frame, toClient }
    | [] => none
  | .proxy l => (proxyStep s.driver l).map fun driver => { s with driver }

/-! ## What a step does to the driver -/

/-- Whether a step fails the heartbeat that is under way. -/
def DriverStep.fails : DriverStep → Bool
  | .heartbeatOpened ok | .heartbeatWritten ok | .heartbeatClosed ok => !ok
  | .heartbeatError | .heartbeatTimeout => true
  | _ => false

/-- The steps of the driver as rules, one for each way out of each wait. -/
inductive DriverOwn (K : ℕ) (d : YamuxDriver) : DriverStep → YamuxDriver → Prop where
  | inboundError (hphase : d.phase = .selecting) :
    DriverOwn K d .inboundError { d with phase := .ended .inboundError }
  | inboundClosed (hphase : d.phase = .selecting) :
    DriverOwn K d .inboundClosed { d with phase := .ended .inboundClosed }
  | recvCommand (reply : ℕ) (cmdRx : List ℕ) (hphase : d.phase = .selecting)
      (hcmd : d.cmdRx = reply :: cmdRx) :
    DriverOwn K d .recvCommand { d with cmdRx, phase := .openStream reply }
  | recvNone (hphase : d.phase = .selecting) (hcmd : d.cmdRx = []) :
    DriverOwn K d .recvNone { d with phase := .ended .handlesDropped }
  | opened (reply : ℕ) (hphase : d.phase = .openStream reply) (hroom : d.conn.ackBacklog < K) :
    DriverOwn K d (.opened true)
      { d with
        conn := d.conn.openStream, phase := .selecting, held := d.conn.nextId :: d.held }
  | openFailed (reply : ℕ) (hphase : d.phase = .openStream reply)
      (hroom : d.conn.ackBacklog < K) :
    DriverOwn K d (.opened false) { d with phase := .selecting }
  | tick (hphase : d.phase = .selecting) (hsupports : d.supportsHeartbeat = true) :
    DriverOwn K d .tick { d with phase := .heartbeatOpen }
  | heartbeatOpened (hphase : d.phase = .heartbeatOpen) (hroom : d.conn.ackBacklog < K) :
    DriverOwn K d (.heartbeatOpened true)
      { d with conn := d.conn.openStream, phase := .heartbeatWrite d.conn.nextId }
  | heartbeatWritten (id : ℕ) (hphase : d.phase = .heartbeatWrite id) :
    DriverOwn K d (.heartbeatWritten true)
      { d with
        conn := d.conn.push (.send (.data id [streamTypeHeartbeat])), phase := .heartbeatRead id }
  | heartbeatPong (id : ℕ) (byte : UInt8) (conn : Conn) (hphase : d.phase = .heartbeatRead id)
      (hread : d.conn.read id = some (byte, conn)) :
    DriverOwn K d .heartbeatPong { d with conn, phase := .heartbeatClose id }
  | heartbeatClosed (id : ℕ) (hphase : d.phase = .heartbeatClose id) :
    DriverOwn K d (.heartbeatClosed true)
      { d with conn := d.conn.push (.send (.fin id)) }.heartbeatOk
  | heartbeatMissed {l : DriverStep} (hfails : l.fails = true)
      (hphase : d.phase = .heartbeatOpen ∨ d.phase.heartbeatStream ≠ none) :
    DriverOwn K d l d.heartbeatMissed

/-- The driver takes no other steps. -/
theorem driverStep_cases {K : ℕ} {d d' : YamuxDriver} {l : DriverStep}
    (h : driverStep K d l = some d') : DriverOwn K d l d' := by
  unfold driverStep at h
  split at h
  · rename_i hphase
    obtain rfl := Option.some.inj h
    exact .inboundError hphase
  · rename_i hphase
    obtain rfl := Option.some.inj h
    exact .inboundClosed hphase
  · rename_i hphase
    split at h
    · rename_i reply cmdRx hcmd
      obtain rfl := Option.some.inj h
      exact .recvCommand reply cmdRx hphase hcmd
    · cases h
  · rename_i hphase
    split_ifs at h with hcmd
    obtain rfl := Option.some.inj h
    exact .recvNone hphase hcmd
  · rename_i reply hphase
    obtain ⟨conn, hpoll, rfl⟩ := Option.map_eq_some_iff.mp h
    obtain ⟨hroom, rfl⟩ := Conn.pollNewOutbound_eq_some.mp hpoll
    exact .opened reply hphase hroom
  · rename_i reply hphase
    obtain ⟨conn, hpoll, rfl⟩ := Option.map_eq_some_iff.mp h
    exact .openFailed reply hphase (Conn.pollNewOutbound_eq_some.mp hpoll).1
  · rename_i hphase
    split_ifs at h with hsupports
    obtain rfl := Option.some.inj h
    exact .tick hphase hsupports
  · rename_i hphase
    obtain ⟨conn, hpoll, rfl⟩ := Option.map_eq_some_iff.mp h
    obtain ⟨hroom, rfl⟩ := Conn.pollNewOutbound_eq_some.mp hpoll
    exact .heartbeatOpened hphase hroom
  · rename_i hphase
    obtain ⟨conn, -, rfl⟩ := Option.map_eq_some_iff.mp h
    exact .heartbeatMissed rfl (.inl hphase)
  · rename_i id hphase
    obtain rfl := Option.some.inj h
    exact .heartbeatWritten id hphase
  · rename_i id hphase
    obtain rfl := Option.some.inj h
    exact .heartbeatMissed rfl (.inr (by rw [hphase]; nofun))
  · rename_i id hphase
    obtain ⟨⟨byte, conn⟩, hread, rfl⟩ := Option.map_eq_some_iff.mp h
    exact .heartbeatPong id byte conn hphase hread
  · rename_i id hphase
    split_ifs at h
    obtain rfl := Option.some.inj h
    exact .heartbeatMissed rfl (.inr (by rw [hphase]; nofun))
  · rename_i id hphase
    obtain rfl := Option.some.inj h
    exact .heartbeatClosed id hphase
  · rename_i id hphase
    obtain rfl := Option.some.inj h
    exact .heartbeatMissed rfl (.inr (by rw [hphase]; nofun))
  -- The timeout, in each of the waits of a heartbeat.
  · rename_i hphase
    obtain rfl := Option.some.inj h
    exact .heartbeatMissed rfl (.inl hphase)
  · rename_i id hphase
    obtain rfl := Option.some.inj h
    exact .heartbeatMissed rfl (.inr (by rw [hphase]; nofun))
  · rename_i id hphase
    obtain rfl := Option.some.inj h
    exact .heartbeatMissed rfl (.inr (by rw [hphase]; nofun))
  · rename_i id hphase
    obtain rfl := Option.some.inj h
    exact .heartbeatMissed rfl (.inr (by rw [hphase]; nofun))
  · cases h

/-- The connection is polled while the driver is selecting. -/
theorem YamuxDriver.send_eq_some {d d' : YamuxDriver} {frame : Frame}
    (h : d.send = some (frame, d')) : d.phase = .selecting ∧ ∃ conn, d' = { d with conn } := by
  unfold send at h
  split_ifs at h with hphase
  obtain ⟨⟨frame', conn⟩, -, heq⟩ := Option.map_eq_some_iff.mp h
  obtain ⟨-, rfl⟩ := Prod.mk.inj heq
  exact ⟨hphase, conn, rfl⟩

/-- The connection is polled while the driver is selecting. -/
theorem YamuxDriver.receive_eq_some {d d' : YamuxDriver} {frame : Frame}
    (h : d.receive frame = some d') : d.phase = .selecting ∧ ∃ conn, d' = { d with conn } := by
  unfold receive at h
  split_ifs at h with hphase
  split at h
  all_goals
    obtain rfl := Option.some.inj h
    exact ⟨hphase, _, rfl⟩

/-- What a step of the tunnel does to its driver. -/
inductive DriverRule (K : ℕ) (d : YamuxDriver) : TunnelStep → YamuxDriver → Prop where
  /-- The driver takes a step of its own. -/
  | own {l : DriverStep} {d' : YamuxDriver} (h : driverStep K d l = some d') :
    DriverRule K d (.driver l) d'
  /-- The connection is polled. -/
  | send (hphase : d.phase = .selecting) (conn : Conn) :
    DriverRule K d .driverSend { d with conn }
  /-- The connection is polled. -/
  | receive (hphase : d.phase = .selecting) (conn : Conn) :
    DriverRule K d .driverReceive { d with conn }
  /-- A proxy request takes a step. -/
  | proxy {l : ProxyStep} {d' : YamuxDriver} (h : proxyStep d l = some d') :
    DriverRule K d (.proxy l) d'
  /-- The client does not touch the driver. -/
  | task (l : TaskStep) : DriverRule K d (.task l) d
  | clientSend : DriverRule K d .clientSend d
  | clientReceive : DriverRule K d .clientReceive d

/-- Every step is one of these. -/
theorem tunnelStep_cases {K : ℕ} {s s' : Tunnel} {l : TunnelStep}
    (h : tunnelStep K s l = some s') : DriverRule K s.driver l s'.driver := by
  unfold tunnelStep at h
  cases l with
  | driver l =>
    obtain ⟨driver, hstep, rfl⟩ := Option.map_eq_some_iff.mp h
    exact .own hstep
  | driverSend =>
    obtain ⟨⟨frame, driver⟩, hsend, rfl⟩ := Option.map_eq_some_iff.mp h
    obtain ⟨hphase, conn, rfl⟩ := YamuxDriver.send_eq_some hsend
    exact .send hphase conn
  | driverReceive =>
    dsimp only at h
    split at h
    · obtain ⟨driver, hreceive, rfl⟩ := Option.map_eq_some_iff.mp h
      obtain ⟨hphase, conn, rfl⟩ := YamuxDriver.receive_eq_some hreceive
      exact .receive hphase conn
    · cases h
  | task l =>
    obtain ⟨client, -, rfl⟩ := Option.map_eq_some_iff.mp h
    exact .task l
  | clientSend =>
    obtain ⟨⟨frame, conn⟩, -, rfl⟩ := Option.map_eq_some_iff.mp h
    exact .clientSend
  | clientReceive =>
    dsimp only at h
    split at h
    · obtain rfl := Option.some.inj h
      exact .clientReceive
    · cases h
  | proxy l =>
    obtain ⟨driver, hstep, rfl⟩ := Option.map_eq_some_iff.mp h
    exact .proxy hstep

/-- What a proxy request leaves alone: what the driver is waiting for, the heartbeat's count, the
backlog, and every stream with nothing to read. -/
structure ProxyFrame (d d' : YamuxDriver) : Prop where
  phase : d'.phase = d.phase
  missedHeartbeats : d'.missedHeartbeats = d.missedHeartbeats
  ackBacklog : d'.conn.ackBacklog = d.conn.ackBacklog
  streams : ∀ id stream, d.conn.streams id = some stream → stream.buffer = [] →
    d'.conn.streams id = some stream

/-- A step of a proxy request leaves them alone. -/
theorem proxyStep_frame {d d' : YamuxDriver} {l : ProxyStep} (h : proxyStep d l = some d') :
    ProxyFrame d d' := by
  unfold proxyStep at h
  cases l with
  | read id =>
    dsimp only at h
    split_ifs at h
    obtain ⟨⟨byte, conn⟩, hread, rfl⟩ := Option.map_eq_some_iff.mp h
    exact ⟨rfl, rfl, Conn.ackBacklog_read hread, fun id' stream hstream hempty =>
      Conn.read_streams hread hstream hempty⟩
  | sendCommand _ | write _ _ | close _ | drop _ =>
    dsimp only at h
    split_ifs at h
    obtain rfl := Option.some.inj h
    exact ⟨rfl, rfl, rfl, fun _ _ hstream _ => hstream⟩

end ZoTunnel
