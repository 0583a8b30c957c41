import Mathlib.Logic.Relation
import ZoTunnel.Server.FailedAuth
import ZoTunnel.Server.StreamTypes

/-!
# What reaches the local service

A tunnel with what its proxy requests write, and what its client's tasks hand to the local service
(`Traffic`). A request that holds a stream writes the marker first if the entry that it has looked
up says so, and then its HTTP layer writes any bytes in any chunks. Each step of the traffic is made
up of moves of its `Flow` (`trafficStep_moves`), so that the invariant of the streams holds in every
state.

Whether a request writes the marker, and whether the driver sends heartbeats, is decided by two
copies of the flag that the server took from the client's `AuthReq`. `linkStep` is the server with
the traffic of its sessions, and `streams_never_mix` is about every run of it.
-/

namespace ZoTunnel

open Mux Transition

/-- A tunnel, with the bytes that pass through it. -/
structure Traffic where
  tunnel : Tunnel
  /-- Whether the request that waits for this reply is to write the marker. -/
  marks : ℕ → Bool
  uses : ℕ → Option StreamUse
  /-- What the HTTP layer has written to each stream. -/
  written : ℕ → List UInt8
  /-- What the local service has received of each stream. -/
  received : ℕ → List UInt8
  /-- Whether the client has written a pong to the stream. -/
  ponged : ℕ → Bool
  /-- Whether the client has read the stream's marker. -/
  marked : ℕ → Bool
  /-- Whether the local service could not be reached, or the stream's pipe has failed. -/
  failed : ℕ → Bool

/-- A tunnel after the handshake. -/
def Traffic.new (supportsHeartbeat : Bool) : Traffic :=
  ⟨.new supportsHeartbeat, fun _ => false, fun _ => none, fun _ => [], fun _ => [], fun _ => false,
    fun _ => false, fun _ => false⟩

/-- What the driver has its streams for after a step. -/
def usesAfter (marks : ℕ → Bool) (d : YamuxDriver) (l : DriverStep)
    (uses : ℕ → Option StreamUse) : ℕ → Option StreamUse :=
  match d.phase, l with
  | .openStream reply, .opened true =>
    Function.update uses d.conn.nextId (some (if marks reply then .marker else .http))
  | .heartbeatOpen, .heartbeatOpened true => Function.update uses d.conn.nextId (some .ping)
  | .heartbeatWrite id, _ => Function.update uses id (some .heartbeat)
  | _, _ => uses

/-- What matters of the traffic for the bytes of its streams. -/
def Traffic.flow (t : Traffic) : Flow where
  frames := t.tunnel.toClient ++ t.tunnel.driver.conn.commands.map Command.frame
  uses := t.uses
  written := t.written
  streams := t.tunnel.client.conn.streams
  tasks := t.tunnel.client.tasks
  received := t.received
  ponged := t.ponged

/-- The frames on the way to the server. -/
def Traffic.toServer (t : Traffic) : List Frame :=
  t.tunnel.toServer ++ t.tunnel.client.conn.commands.map Command.frame

/-- A stream that the client is done with: it has no task, and gets none. -/
structure Flow.Settled (f : Flow) (id : ℕ) : Prop where
  task : f.tasks id = none
  syn : .syn id ∉ f.frames
  use : f.uses id ≠ none

/-- What else there is to know of a tunnel whose requests write the marker. -/
structure Traffic.Sound (t : Traffic) : Prop where
  /-- The streams below the next one have been opened. -/
  opened : ∀ id, t.uses id = none ↔ t.tunnel.driver.conn.nextId ≤ id
  /-- The requests hold streams of their own. -/
  held : ∀ id ∈ t.tunnel.driver.held, ∃ use, t.uses id = some use ∧ use.isProxy = true
  /-- So does the heartbeat. -/
  pinging : ∀ id, t.tunnel.driver.phase = .heartbeatWrite id → t.uses id = some .ping
  beating : ∀ id, t.tunnel.driver.phase = .heartbeatRead id ∨
    t.tunnel.driver.phase = .heartbeatClose id → t.uses id = some .heartbeat
  /-- The requests that wait for a stream will write the marker. -/
  marks : ∀ reply, reply ∈ t.tunnel.driver.cmdRx ∨ t.tunnel.driver.phase = .openStream reply →
    t.marks reply = true
  /-- The client drops a stream when it is done with it. -/
  dropped : ∀ id, .dropped id ∈ t.tunnel.client.conn.commands → t.flow.Settled id
  /-- The client opens no streams. -/
  inbound : ∀ frame ∈ t.toServer, ∀ id, frame ≠ .syn id

/-- A stream that the client is done with stays so. -/
theorem FlowMove.settled {f f' : Flow} (h : FlowMove f f') {id : ℕ} (hid : f.Settled id) :
    f'.Settled id := by
  obtain ⟨htask, hsyn, huse⟩ := hid
  have hpush : ∀ {frame : Frame}, frame ≠ .syn id → .syn id ∉ f.frames ++ [frame] := by
    intro frame hframe hmem
    rcases List.mem_append.mp hmem with hmem | hmem
    · exact hsyn hmem
    · exact hframe (List.mem_singleton.mp hmem).symm
  have huses : ∀ (i : ℕ) (use : StreamUse), Function.update f.uses i (some use) id ≠ none := by
    intro i use
    by_cases hi : id = i
    · rw [hi, Function.update_self]
      exact Option.some_ne_none use
    · rwa [Function.update_of_ne hi]
  -- The tasks that go on are those of other streams.
  have htasks : ∀ {i : ℕ} {task : StreamTask} (task' : Option StreamTask), f.tasks i = some task →
      Function.update f.tasks i task' id = none := by
    intro i task task' hi
    rw [Function.update_of_ne fun heq => by rw [← heq, htask] at hi; cases hi]
    exact htask
  cases h with
  | openStream i use hnew =>
    exact ⟨htask, hpush fun heq => huse (Frame.syn.inj heq ▸ hnew), huses i use⟩
  | writeMarker i | writePing i => exact ⟨htask, hpush nofun, huses i _⟩
  | writeHttp i => exact ⟨htask, hpush nofun, huse⟩
  | endStream frame use hframe =>
    refine ⟨htask, hpush ?_, huses _ _⟩
    obtain ⟨i, rfl | rfl⟩ := hframe <;> nofun
  | arrive frame frames hframes =>
    refine ⟨?_, fun hmem => hsyn (hframes ▸ List.mem_cons_of_mem _ hmem), huse⟩
    show f.tasksAfter frame id = none
    unfold Flow.tasksAfter
    split
    · rename_i i
      have hne : id ≠ i := fun heq => hsyn (hframes ▸ heq ▸ List.mem_cons_self)
      split_ifs
      · rwa [Function.update_of_ne hne]
      · exact htask
    · exact htask
  | readMarker i _ _ _ hi => exact ⟨htasks _ hi, hsyn, huse⟩
  | writePong i hi | drain i hi => exact ⟨htasks _ hi, hsyn, huse⟩
  | readProxy | ack | removeStream => exact ⟨htask, hsyn, huse⟩
  | endTask i =>
    refine ⟨?_, hsyn, huse⟩
    show Function.update f.tasks i none id = none
    by_cases hi : id = i
    · rw [hi, Function.update_self]
    · rwa [Function.update_of_ne hi]

/-- A stream that the client is done with stays so along any moves. -/
theorem settled_of_moves {f f' : Flow} (h : Relation.ReflTransGen FlowMove f f') {id : ℕ}
    (hid : f.Settled id) : f'.Settled id := by
  induction h with
  | refl => exact hid
  | tail _ hmove ih => exact hmove.settled ih

/-- The invariant of the streams is kept along any moves. -/
theorem inv_of_moves {f f' : Flow} (h : Relation.ReflTransGen FlowMove f f')
    (hinv : ∀ id, StreamInv f id) : ∀ id, StreamInv f' id := by
  induction h with
  | refl => exact hinv
  | tail _ hmove ih => exact hmove.inv ih

/-- A step of the server's side. -/
theorem Traffic.Sound.server {t t' : Traffic} (h : t.Sound)
    (hmoves : Relation.ReflTransGen FlowMove t.flow t'.flow)
    (hclient : t'.tunnel.client = t.tunnel.client)
    (hserver : t'.tunnel.toServer = t.tunnel.toServer)
    (opened : ∀ id, t'.uses id = none ↔ t'.tunnel.driver.conn.nextId ≤ id)
    (held : ∀ id ∈ t'.tunnel.driver.held, ∃ use, t'.uses id = some use ∧ use.isProxy = true)
    (pinging : ∀ id, t'.tunnel.driver.phase = .heartbeatWrite id → t'.uses id = some .ping)
    (beating : ∀ id, t'.tunnel.driver.phase = .heartbeatRead id ∨
      t'.tunnel.driver.phase = .heartbeatClose id → t'.uses id = some .heartbeat)
    (marks : ∀ reply, reply ∈ t'.tunnel.driver.cmdRx ∨
      t'.tunnel.driver.phase = .openStream reply → t'.marks reply = true) : t'.Sound where
  opened := opened
  held := held
  pinging := pinging
  beating := beating
  marks := marks
  dropped id hid := by
    rw [hclient] at hid
    exact settled_of_moves hmoves (h.dropped id hid)
  inbound := by
    unfold Traffic.toServer
    rw [hclient, hserver]
    exact h.inbound

/-- A step of the client's side. -/
theorem Traffic.Sound.client {t t' : Traffic} (h : t.Sound)
    (hmoves : Relation.ReflTransGen FlowMove t.flow t'.flow)
    (hdriver : t'.tunnel.driver = t.tunnel.driver) (huses : t'.uses = t.uses)
    (hmarks : t'.marks = t.marks)
    (hdropped : ∀ id, .dropped id ∈ t'.tunnel.client.conn.commands →
      .dropped id ∈ t.tunnel.client.conn.commands ∨ t'.flow.Settled id)
    (hinbound : ∀ frame ∈ t'.toServer, frame ∈ t.toServer ∨ ∀ id, frame ≠ .syn id) : t'.Sound where
  opened := by
    rw [huses, hdriver]
    exact h.opened
  held := by
    rw [huses, hdriver]
    exact h.held
  pinging := by
    rw [huses, hdriver]
    exact h.pinging
  beating := by
    rw [huses, hdriver]
    exact h.beating
  marks := by
    rw [hmarks, hdriver]
    exact h.marks
  dropped id hid := (hdropped id hid).elim
    (fun hold => settled_of_moves hmoves (h.dropped id hold)) fun hnew => hnew
  inbound frame hframe := (hinbound frame hframe).elim (h.inbound frame) fun hnew => hnew

/-! ## The steps of the requests -/

/-- The traffic after a step of the driver. -/
def Traffic.setDriver (t : Traffic) (l : DriverStep) (driver : YamuxDriver) : Traffic :=
  { t with
    tunnel := { t.tunnel with driver }, uses := usesAfter t.marks t.tunnel.driver l t.uses }

/-- A step of the client that hands commands to its connection. -/
theorem Traffic.Sound.push {t t' : Traffic} (h : t.Sound) (commands : List Command)
    (hmoves : Relation.ReflTransGen FlowMove t.flow t'.flow)
    (hserver : t'.tunnel.driver = t.tunnel.driver ∧ t'.uses = t.uses ∧ t'.marks = t.marks ∧
      t'.tunnel.toServer = t.tunnel.toServer)
    (hcommands : t'.tunnel.client.conn.commands = t.tunnel.client.conn.commands ++ commands)
    (hsyn : ∀ command ∈ commands, ∀ id, command.frame ≠ .syn id)
    (hdropped : ∀ id, .dropped id ∈ commands → t'.flow.Settled id) : t'.Sound := by
  obtain ⟨hdriver, huses, hmarks, htoServer⟩ := hserver
  refine h.client hmoves hdriver huses hmarks ?_ ?_
  · intro id hid
    rw [hcommands] at hid
    exact (List.mem_append.mp hid).imp_right (hdropped id)
  · intro frame hframe
    unfold Traffic.toServer at hframe ⊢
    rw [htoServer, hcommands, List.map_append, ← List.append_assoc] at hframe
    refine (List.mem_append.mp hframe).imp_right fun hnew => ?_
    obtain ⟨command, hmem, rfl⟩ := List.mem_map.mp hnew
    exact hsyn command hmem

end ZoTunnel
