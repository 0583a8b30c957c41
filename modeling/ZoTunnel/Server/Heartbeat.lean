import ZoTunnel.Server.YamuxDriver

/-!
# The heartbeat

The driver opens a stream, writes the marker, and reads the pong in the body of an arm, where the
connection is not polled. So neither the marker nor the pong ever moves, and no heartbeat succeeds:
`Unanswered` says that nothing has arrived on the stream of a heartbeat, and every round that ends
is missed. The driver leaves its loop with the fifth, whatever the client does
(`heartbeat_alive_iff`).
-/

namespace ZoTunnel

open Mux Transition

/-- The heartbeat has not declared the client dead. -/
def Alive (s : Tunnel) : Prop :=
  s.driver.missedHeartbeats < maxMissed ∧ s.driver.phase ≠ .ended .heartbeat

/-- The steps that end a round of the heartbeat. -/
def endsRound : TunnelStep → Bool
  | .driver (.heartbeatOpened false) | .driver (.heartbeatWritten false) | .driver .heartbeatError
  | .driver (.heartbeatClosed _) | .driver .heartbeatTimeout => true
  | _ => false

/-- The stream of a heartbeat that is under way has received nothing, and is not closed. -/
structure Unanswered (d : YamuxDriver) : Prop where
  stream : ∀ id, d.phase = .heartbeatWrite id ∨ d.phase = .heartbeatRead id →
    ∃ stream, d.conn.streams id = some stream ∧ stream.buffer = [] ∧ stream.remoteClosed = false
  /-- No heartbeat gets as far as closing its stream. -/
  notClosing : ∀ id, d.phase ≠ .heartbeatClose id
  dead : d.phase = .ended .heartbeat ↔ maxMissed ≤ d.missedHeartbeats

/-- The driver starts with no heartbeat under way. -/
theorem unanswered_new (supportsHeartbeat : Bool) : Unanswered (.new supportsHeartbeat) where
  stream id h := by rcases h with h | h <;> cases h
  notClosing id := nofun
  dead := ⟨nofun, nofun⟩

/-- Out of the heartbeat, only the count of missed heartbeats matters. -/
theorem Unanswered.of_phase {d d' : YamuxDriver} (h : Unanswered d)
    (hphase : d'.phase.heartbeatStream = none)
    (hmissed : d'.missedHeartbeats = d.missedHeartbeats)
    (hdead : d'.phase = .ended .heartbeat ↔ d.phase = .ended .heartbeat) : Unanswered d' where
  stream id hid := by rcases hid with hid | hid <;> rw [hid] at hphase <;> cases hphase
  notClosing id hid := by rw [hid] at hphase; cases hphase
  dead := by rw [hdead, hmissed, h.dead]

/-- A missed heartbeat is counted, and ends the round. -/
theorem unanswered_heartbeatMissed (d : YamuxDriver) : Unanswered d.heartbeatMissed where
  stream id hid := by
    unfold YamuxDriver.heartbeatMissed at hid
    dsimp only at hid
    split_ifs at hid <;> rcases hid with hid | hid <;> cases hid
  notClosing id hid := by
    unfold YamuxDriver.heartbeatMissed at hid
    dsimp only at hid
    split_ifs at hid
  dead := by
    unfold YamuxDriver.heartbeatMissed
    dsimp only
    split_ifs with hmax <;> simp [hmax]

/-- A heartbeat that fails ends its round. -/
theorem endsRound_of_fails {l : DriverStep} (h : l.fails = true) :
    endsRound (.driver l) = true := by
  cases l with
  | heartbeatOpened ok | heartbeatWritten ok => cases ok <;> simp_all [DriverStep.fails, endsRound]
  | heartbeatError | heartbeatClosed | heartbeatTimeout => rfl
  | _ => cases h

/-- A step of the driver keeps the heartbeat unanswered, and misses it if it ends the round. -/
theorem Unanswered.driverStep {K : ℕ} {d d' : YamuxDriver} {l : DriverStep} (h : Unanswered d)
    (hstep : driverStep K d l = some d') :
    Unanswered d' ∧ d'.missedHeartbeats =
      d.missedHeartbeats + if endsRound (.driver l) then 1 else 0 := by
  have hdead := h.dead
  cases driverStep_cases hstep with
  | inboundError hphase | inboundClosed hphase | recvCommand _ _ hphase | recvNone hphase
  | opened _ hphase | openFailed _ hphase | tick hphase =>
    exact ⟨h.of_phase rfl rfl (by simp [hphase]), rfl⟩
  | heartbeatOpened hphase =>
    rw [hphase] at hdead
    refine ⟨⟨fun id hid => ?_, nofun, nofun, fun hle => absurd (hdead.mpr hle) nofun⟩, rfl⟩
    -- The stream of the heartbeat is new.
    obtain rfl : d.conn.nextId = id := by
      rcases hid with hid | hid
      · exact DriverPhase.heartbeatWrite.inj hid
      · cases hid
    exact ⟨_, Function.update_self .., rfl, rfl⟩
  | heartbeatWritten id hphase =>
    rw [hphase] at hdead
    refine ⟨⟨fun id' hid' => ?_, nofun, nofun, fun hle => absurd (hdead.mpr hle) nofun⟩, rfl⟩
    obtain rfl : id = id' := by
      rcases hid' with hid' | hid'
      · cases hid'
      · exact DriverPhase.heartbeatRead.inj hid'
    exact h.stream id (.inl hphase)
  | heartbeatPong id byte conn hphase hread =>
    -- There is no pong to read.
    obtain ⟨stream, hstream, hempty, -⟩ := h.stream id (.inr hphase)
    rw [Conn.read_eq_none hstream hempty] at hread
    cases hread
  | heartbeatClosed id hphase => exact absurd hphase (h.notClosing id)
  | heartbeatMissed hfails =>
    rw [if_pos (endsRound_of_fails hfails)]
    exact ⟨unanswered_heartbeatMissed d, rfl⟩

/-- A step of a proxy request keeps the heartbeat unanswered. -/
theorem Unanswered.of_frame {d d' : YamuxDriver} (h : Unanswered d) (hframe : ProxyFrame d d') :
    Unanswered d' where
  stream id hid := by
    rw [hframe.phase] at hid
    obtain ⟨stream, hstream, hempty, hopen⟩ := h.stream id hid
    exact ⟨stream, hframe.streams id stream hstream hempty, hempty, hopen⟩
  notClosing id := by
    rw [hframe.phase]
    exact h.notClosing id
  dead := by rw [hframe.phase, hframe.missedHeartbeats, h.dead]

/-- A step of the tunnel keeps the heartbeat unanswered, and misses it if it ends the round. -/
theorem Unanswered.tunnelStep {K : ℕ} {s s' : Tunnel} {l : TunnelStep} (h : Unanswered s.driver)
    (hstep : tunnelStep K s l = some s') :
    Unanswered s'.driver ∧ s'.driver.missedHeartbeats =
      s.driver.missedHeartbeats + if endsRound l then 1 else 0 := by
  have hrule := tunnelStep_cases hstep
  generalize s'.driver = d' at hrule ⊢
  cases hrule with
  | own hown => exact h.driverStep hown
  | send hphase conn | receive hphase conn =>
    have hnone : s.driver.phase.heartbeatStream = none := by rw [hphase]; rfl
    exact ⟨h.of_phase hnone rfl Iff.rfl, rfl⟩
  | proxy hproxy =>
    have hframe := proxyStep_frame hproxy
    exact ⟨h.of_frame hframe, hframe.missedHeartbeats⟩
  | task | clientSend | clientReceive => exact ⟨h, rfl⟩

/-- The heartbeat declares no client dead along exactly the runs in which fewer than five of its
rounds end. -/
theorem heartbeat_alive_iff (K : ℕ) (supportsHeartbeat : Bool) (labels : List TunnelStep) :
    Visits (tunnelStep K) Alive (.new supportsHeartbeat) labels ↔
      taken (tunnelStep K) endsRound (.new supportsHeartbeat) labels < maxMissed := by
  have hinv : ∀ s l s', Unanswered s.driver → ZoTunnel.tunnelStep K s l = some s' →
      Unanswered s'.driver := fun s l s' h hstep => (h.tunnelStep hstep).1
  -- The count of missed heartbeats is the number of rounds that have ended.
  have hcount := visits_lt_iff (I := fun s => Unanswered s.driver)
    (f := fun s => s.driver.missedHeartbeats) (p := endsRound) hinv
    (fun s l s' h hstep => (h.tunnelStep hstep).2) maxMissed (s := .new supportsHeartbeat)
    (unanswered_new supportsHeartbeat) labels
  have hvisits := visits_of_invariant hinv (s := .new supportsHeartbeat)
    (unanswered_new supportsHeartbeat) labels
  have hnew : (Tunnel.new supportsHeartbeat).driver.missedHeartbeats = 0 := rfl
  rw [hnew, Nat.zero_add] at hcount
  rw [← hcount]
  constructor
  · exact fun halive => halive.mono fun s h => h.1
  · intro hlt
    refine (hlt.and hvisits).mono fun s h => ⟨h.1, fun hdead => ?_⟩
    have := h.2.dead.mp hdead
    omega

/-! ## A client that answers every heartbeat -/

/-- The 10 s of a heartbeat are only over when the network, the client and the driver have nothing
left to do. -/
def TimelyTimeout (K : ℕ) (s : Tunnel) : TunnelStep → Prop
  | .driver .heartbeatTimeout =>
    ∀ l, l ≠ .driver .heartbeatTimeout → (∀ p, l ≠ .proxy p) → tunnelStep K s l = none
  | _ => True

/-- A tunnel with nothing under way, after `n` heartbeats of which the last `missed` were missed. -/
def resting (n missed : ℕ) : Tunnel where
  driver := ⟨true, ⟨fun _ => none, n, []⟩, .selecting, missed, [], []⟩
  client := ⟨⟨fun _ => none, 0, []⟩, fun _ => none⟩
  toClient := []
  toServer := []

/-- A tunnel in which a heartbeat waits for its pong. The frames that open its stream and carry its
marker are not on the socket yet. -/
def waiting (n missed : ℕ) : Tunnel :=
  { resting n missed with
    driver := ⟨true,
      ⟨Function.update (fun _ => none) n (some ⟨true, false, [], false⟩), n + 1,
        [.send (.syn n), .send (.data n [streamTypeHeartbeat])]⟩,
      .heartbeatRead n, missed, [], []⟩ }

/-- A heartbeat up to its wait for the pong. -/
def heartbeatSteps : List TunnelStep :=
  [.driver .tick, .driver (.heartbeatOpened true), .driver (.heartbeatWritten true)]

/-- The heartbeat reaches the client. -/
def deliverSteps : List TunnelStep := [.driverSend, .clientReceive, .driverSend, .clientReceive]

/-- The client answers the heartbeat. -/
def answerSteps (id : ℕ) : List TunnelStep :=
  [.task (.readMarker id), .task (.writePong id), .task (.close id), .clientSend, .clientSend,
    .clientSend, .clientSend]

/-- The rest of the frames arrive, the pong among them. -/
def settleSteps : List TunnelStep :=
  [.driverSend, .clientReceive, .driverReceive, .driverReceive, .driverReceive, .driverReceive]

/-- A resting tunnel starts a heartbeat. -/
theorem exec_heartbeatSteps (n missed : ℕ) :
    exec (tunnelStep 256) (resting n missed) heartbeatSteps = some (waiting n missed) := by
  have hbacklog : (resting n missed).driver.conn.ackBacklog = 0 := by
    unfold Conn.ackBacklog
    rw [List.countP_eq_zero]
    exact fun id _ => by simp [resting, Conn.unacked]
  have hpoll : (resting n missed).driver.conn.pollNewOutbound 256 =
      some (resting n missed).driver.conn.openStream :=
    Conn.pollNewOutbound_eq_some.mpr ⟨by rw [hbacklog]; decide, rfl⟩
  unfold resting at hpoll ⊢
  dsimp only at hpoll
  simp [exec, heartbeatSteps, tunnelStep, driverStep, hpoll, waiting, resting, Conn.openStream,
    Conn.push]

/-- While the heartbeat waits, nothing but its timeout is left. -/
theorem waiting_quiet (n missed : ℕ) : TimelyTimeout 256 (waiting n missed)
    (.driver .heartbeatTimeout) := by
  intro l hne hproxy
  cases l with
  | driver l =>
    -- The driver waits for a pong, and nothing has arrived on the stream.
    have hread : (waiting n missed).driver.conn.read n = none := by
      simp [waiting, Conn.read]
    have heof : (waiting n missed).driver.conn.eof n = false := by
      simp [waiting, Conn.eof]
    have hphase : (waiting n missed).driver.phase = .heartbeatRead n := rfl
    cases l with
    | heartbeatTimeout => exact absurd rfl hne
    | heartbeatPong => simp [tunnelStep, driverStep, hphase, hread]
    | heartbeatError => simp [tunnelStep, driverStep, hphase, heof]
    | opened ok | heartbeatOpened ok | heartbeatWritten ok | heartbeatClosed ok =>
      cases ok <;> rfl
    | _ => rfl
  | task l =>
    -- The client has not heard of the stream.
    have hnone := ClientSession.taskStep_of_no_tasks (s := (waiting n missed).client) rfl l
    simp only [tunnelStep, hnone, Option.map_none]
  | proxy p => exact absurd rfl (hproxy p)
  | _ => rfl

/-- A tunnel whose heartbeat was missed, with the frames that wait at the driver, the client's end,
and the frames on their way back. -/
def missedTunnel (n missed : ℕ) (commands : List Command) (client : ClientSession)
    (toServer : List Frame) : Tunnel where
  driver := ⟨true,
    ⟨Function.update (fun _ => none) n (some ⟨true, false, [], false⟩), n + 1, commands⟩,
    .selecting, missed, [], []⟩
  client := client
  toClient := []
  toServer := toServer

/-- A client that has received the marker of a heartbeat. -/
def markedClient (n : ℕ) : ClientSession :=
  ⟨⟨Function.update (fun _ => none) n (some ⟨false, false, [streamTypeHeartbeat], false⟩), 0, []⟩,
    Function.update (fun _ => none) n (some .marker)⟩

/-- The marker reaches the client. -/
theorem exec_deliverSteps (n missed : ℕ) :
    exec (tunnelStep 256) (missedTunnel n missed
      [.send (.syn n), .send (.data n [streamTypeHeartbeat]), .dropped n] .new []) deliverSteps =
      some (missedTunnel n missed [.dropped n] (markedClient n) []) := by
  simp [exec, deliverSteps, tunnelStep, missedTunnel, markedClient, YamuxDriver.send, Conn.sendNext,
    Conn.receive, ClientSession.receive, ClientSession.setTask, Conn.modify, ClientSession.new,
    Conn.new]

/-- The client reads the marker, writes the pong and ends the stream. -/
theorem exec_answerSteps (n missed : ℕ) :
    exec (tunnelStep 256) (missedTunnel n missed [.dropped n] (markedClient n) []) (answerSteps n) =
      some (missedTunnel n missed [.dropped n] .new
        [.ack n, .data n [streamTypeHeartbeat], .fin n, .rst n]) := by
  simp [exec, answerSteps, tunnelStep, missedTunnel, markedClient, Conn.sendNext,
    ClientSession.setTask, Conn.modify, ClientSession.new, Conn.read, Conn.ack, Conn.push,
    Conn.new, ClientSession.taskStep, ClientSession.endTask]

/-- The driver takes the pong in when it has dropped the stream. -/
theorem exec_settleSteps (n missed : ℕ) :
    exec (tunnelStep 256) (missedTunnel n missed [.dropped n] .new
        [.ack n, .data n [streamTypeHeartbeat], .fin n, .rst n]) settleSteps =
      some (resting (n + 1) missed) := by
  simp [exec, settleSteps, tunnelStep, missedTunnel, YamuxDriver.send, YamuxDriver.receive, resting,
    Conn.sendNext, Conn.receive, ClientSession.receive, Conn.modify, ClientSession.new, Conn.new]

/-- Without a timeout, a run is timely. -/
theorem leads_of_no_timeout {K : ℕ} {s t : Tunnel} {labels : List TunnelStep}
    (hrun : exec (tunnelStep K) s labels = some t)
    (hlabels : .driver .heartbeatTimeout ∉ labels) :
    Leads (tunnelStep K) (TimelyTimeout K) s labels t := by
  refine ⟨hrun, Steps.of_forall (fun l hl s _ => ?_) s⟩
  unfold TimelyTimeout
  split
  · exact absurd hl hlabels
  · trivial

/-- A heartbeat that is timed out by nothing but its own wait. -/
theorem leads_timeout (n missed : ℕ) :
    Leads (tunnelStep 256) (TimelyTimeout 256) (resting n missed)
      (heartbeatSteps ++ [.driver .heartbeatTimeout])
      { waiting n missed with driver := (waiting n missed).driver.heartbeatMissed } :=
  (leads_of_no_timeout (exec_heartbeatSteps n missed) (by decide)).append
    ⟨rfl, fun _ _ => ⟨waiting_quiet n missed, trivial⟩⟩

/-- The steps of a heartbeat that is missed and then answered. -/
def roundSteps (n : ℕ) : List TunnelStep :=
  heartbeatSteps ++ [.driver .heartbeatTimeout] ++ deliverSteps ++ answerSteps n ++ settleSteps

/-- A heartbeat is missed although the client answers it. -/
theorem leads_roundSteps (n missed : ℕ) (hmissed : missed + 1 < maxMissed) :
    Leads (tunnelStep 256) (TimelyTimeout 256) (resting n missed) (roundSteps n)
      (resting (n + 1) (missed + 1)) := by
  have hstate : { waiting n missed with driver := (waiting n missed).driver.heartbeatMissed } =
      missedTunnel n (missed + 1)
        [.send (.syn n), .send (.data n [streamTypeHeartbeat]), .dropped n] .new [] := by
    have hlt : ¬ maxMissed ≤ missed + 1 := by omega
    simp [waiting, resting, missedTunnel, YamuxDriver.heartbeatMissed, YamuxDriver.dropHeartbeat,
      DriverPhase.heartbeatStream, hlt, Conn.push, ClientSession.new, Conn.new]
  have htimeout := leads_timeout n missed
  rw [hstate] at htimeout
  have hdeliver := leads_of_no_timeout (exec_deliverSteps n (missed + 1)) (by decide)
  have hanswer := leads_of_no_timeout (exec_answerSteps n (missed + 1)) (by simp [answerSteps])
  have hsettle := leads_of_no_timeout (exec_settleSteps n (missed + 1)) (by decide)
  exact ((htimeout.append hdeliver).append hanswer).append hsettle

/-- A client that answers every heartbeat is declared dead at the fifth, although every timeout
comes when nothing else is left to do. -/
theorem live_client_declared_dead :
    ¬ ∀ (K : ℕ) (labels : List TunnelStep),
      Meets (tunnelStep K) (TimelyTimeout K) (.new true) labels →
        Visits (tunnelStep K) Alive (.new true) labels := by
  intro h
  have h0 := leads_roundSteps 0 0 (by decide)
  have h1 := leads_roundSteps 1 1 (by decide)
  have h2 := leads_roundSteps 2 2 (by decide)
  have h3 := leads_roundSteps 3 3 (by decide)
  have hrun := (((h0.append h1).append h2).append h3).append (leads_timeout 4 4)
  have halive := (h 256 _ hrun.2).last hrun.1
  exact absurd halive.1 (by decide)

end ZoTunnel
