import Mathlib.Data.List.Range
import Mathlib.Logic.Function.Basic

/-!
# A stream multiplexer

One end of a connection that carries many streams over one socket. The streams' owners hand commands
to the connection, and read what it has put into the streams' buffers. Nothing moves between the
streams and the socket until the connection itself is polled: `sendNext` takes the next command, and
`receive` takes in a frame.

An end opens a stream without waiting for the other end. It may have only a fixed number of streams
that the other end has not acknowledged, and `pollNewOutbound` is pending from that number on.
-/

namespace Mux

/-- A frame on the socket. -/
inductive Frame where
  /-- Opens a stream. -/
  | syn (id : ℕ)
  /-- Acknowledges a stream. -/
  | ack (id : ℕ)
  | data (id : ℕ) (bytes : List UInt8)
  /-- The sender writes no more to the stream. -/
  | fin (id : ℕ)
  /-- The sender has dropped the stream. -/
  | rst (id : ℕ)
  deriving DecidableEq, Repr

/-- What a stream's owner hands to the connection. -/
inductive Command where
  | send (frame : Frame)
  /-- The owner has dropped the stream. -/
  | dropped (id : ℕ)
  deriving DecidableEq, Repr

/-- The connection's view of a stream. -/
structure Stream where
  /-- Whether this end opened the stream. -/
  outbound : Bool
  /-- Whether the end that did not open the stream has acknowledged it. -/
  acked : Bool
  /-- What has been received, and not been read by the owner. -/
  buffer : List UInt8
  /-- Whether the other end has closed or dropped the stream. -/
  remoteClosed : Bool
  deriving DecidableEq, Repr

/-- One end of a connection. -/
structure Conn where
  streams : ℕ → Option Stream
  /-- The id of the next stream that this end opens. -/
  nextId : ℕ
  /-- The commands that the connection has not taken yet. -/
  commands : List Command

namespace Conn

/-- A connection with no streams. -/
def new : Conn := ⟨fun _ => none, 0, []⟩

/-- Whether this end has opened a stream that the other end has not acknowledged. -/
def unacked (c : Conn) (id : ℕ) : Bool :=
  match c.streams id with
  | some stream => stream.outbound && !stream.acked
  | none => false

/-- The number of streams that the other end has not acknowledged, those among them that one end has
closed. An implementation may count the open ones only, and then counts no more. -/
def ackBacklog (c : Conn) : ℕ := (List.range c.nextId).countP c.unacked

/-- Open a stream. -/
def openStream (c : Conn) : Conn where
  streams := Function.update c.streams c.nextId (some ⟨true, false, [], false⟩)
  nextId := c.nextId + 1
  commands := c.commands ++ [.send (.syn c.nextId)]

/-- Open a stream unless `K` streams are not acknowledged, and wait while they are. -/
def pollNewOutbound (K : ℕ) (c : Conn) : Option Conn :=
  if K ≤ c.ackBacklog then none else some c.openStream

/-- Hand a command to the connection. -/
def push (c : Conn) (command : Command) : Conn := { c with commands := c.commands ++ [command] }

/-- Change a stream, if there is one under this id. -/
def modify (c : Conn) (id : ℕ) (f : Stream → Stream) : Conn :=
  match c.streams id with
  | some stream => { c with streams := Function.update c.streams id (some (f stream)) }
  | none => c

/-- Read a byte off a stream's buffer. -/
def read (c : Conn) (id : ℕ) : Option (UInt8 × Conn) :=
  match c.streams id with
  | some ⟨outbound, acked, byte :: buffer, remoteClosed⟩ =>
    some (byte, { c with
      streams := Function.update c.streams id (some ⟨outbound, acked, buffer, remoteClosed⟩) })
  | _ => none

/-- Whether a read on a stream returns the end of the stream. -/
def eof (c : Conn) (id : ℕ) : Bool :=
  match c.streams id with
  | some stream => stream.buffer.isEmpty && stream.remoteClosed
  | none => true

/-- Acknowledge a stream that the other end opened. -/
def ack (c : Conn) (id : ℕ) : Conn :=
  (c.modify id fun stream => { stream with acked := true }).push (.send (.ack id))

/-- Take the next command, and write its frame to the socket. -/
def sendNext (c : Conn) : Option (Frame × Conn) :=
  match c.commands with
  | [] => none
  | .send frame :: commands => some (frame, { c with commands })
  | .dropped id :: commands =>
    some (.rst id, { c with commands, streams := Function.update c.streams id none })

/-- Take in a frame from the socket. A stream that the other end has opened is returned. -/
def receive (c : Conn) : Frame → Conn × Option ℕ
  | .syn id =>
    match c.streams id with
    | none =>
      ({ c with streams := Function.update c.streams id (some ⟨false, false, [], false⟩) }, some id)
    | some _ => (c, none)
  | .ack id => (c.modify id fun stream => { stream with acked := true }, none)
  | .data id bytes =>
    (c.modify id fun stream => { stream with buffer := stream.buffer ++ bytes }, none)
  | .fin id | .rst id => (c.modify id fun stream => { stream with remoteClosed := true }, none)

/-! ## The backlog -/

/-- The backlog is made up of the streams that are not acknowledged. -/
theorem ackBacklog_congr {c c' : Conn} (hnext : c'.nextId = c.nextId)
    (hunacked : ∀ id, c'.unacked id = c.unacked id) : c'.ackBacklog = c.ackBacklog := by
  unfold ackBacklog
  rw [hnext, funext hunacked]

/-- An opened stream is not acknowledged. -/
theorem ackBacklog_openStream (c : Conn) : c.openStream.ackBacklog = c.ackBacklog + 1 := by
  -- The streams below the new one count as before, and the new one counts.
  have hold : ∀ id ∈ List.range c.nextId, c.openStream.unacked id = c.unacked id := by
    intro id hid
    have hne : id ≠ c.nextId := (List.mem_range.mp hid).ne
    simp only [unacked, openStream, Function.update_of_ne hne]
  have hnew : c.openStream.unacked c.nextId = true := by
    simp only [unacked, openStream, Function.update_self]
    rfl
  show (List.range (c.nextId + 1)).countP c.openStream.unacked = _
  rw [List.range_succ, List.countP_append, List.countP_congr fun id hid => by rw [hold id hid],
    List.countP_singleton, hnew]
  rfl

/-- A stream is opened exactly while the backlog is not full. -/
theorem pollNewOutbound_eq_some {K : ℕ} {c c' : Conn} :
    c.pollNewOutbound K = some c' ↔ c.ackBacklog < K ∧ c' = c.openStream := by
  unfold pollNewOutbound
  split_ifs with hfull
  · simp only [false_iff, not_and]
    omega
  · rw [Option.some.injEq, eq_comm]
    exact ⟨fun h => ⟨by omega, h⟩, fun h => h.2⟩

/-! ## The ids of the streams -/

/-- Writing to the socket opens no stream. -/
theorem nextId_sendNext {c c' : Conn} {frame : Frame} (h : c.sendNext = some (frame, c')) :
    c'.nextId = c.nextId := by
  unfold sendNext at h
  split at h
  · cases h
  · obtain ⟨-, rfl⟩ := Prod.mk.inj (Option.some.inj h)
    rfl
  · obtain ⟨-, rfl⟩ := Prod.mk.inj (Option.some.inj h)
    rfl

/-- Changing a stream opens none. -/
theorem nextId_modify (c : Conn) (id : ℕ) (f : Stream → Stream) :
    (c.modify id f).nextId = c.nextId := by
  unfold modify
  split <;> rfl

/-- Taking in a frame opens no stream of this end. -/
theorem nextId_receive (c : Conn) (frame : Frame) : (c.receive frame).1.nextId = c.nextId := by
  unfold receive
  cases frame with
  | syn id =>
    dsimp only
    split <;> rfl
  | ack id | data id bytes | fin id | rst id => exact nextId_modify ..

/-! ## The streams that there are -/

/-- Changing a stream neither adds nor removes one. -/
theorem isSome_modify (c : Conn) (id : ℕ) (f : Stream → Stream) (id' : ℕ) :
    ((c.modify id f).streams id').isSome = (c.streams id').isSome := by
  unfold modify
  split
  · rename_i stream hstream
    dsimp only
    rcases eq_or_ne id' id with rfl | hne
    · rw [Function.update_self, hstream]
      rfl
    · rw [Function.update_of_ne hne]
  · rfl

/-- Changing a stream leaves the commands. -/
theorem commands_modify (c : Conn) (id : ℕ) (f : Stream → Stream) :
    (c.modify id f).commands = c.commands := by
  unfold modify
  split <;> rfl

/-- Taking in a frame leaves the commands. -/
theorem commands_receive (c : Conn) (frame : Frame) :
    (c.receive frame).1.commands = c.commands := by
  unfold receive
  cases frame with
  | syn id =>
    dsimp only
    split <;> rfl
  | ack id | data id bytes | fin id | rst id => exact commands_modify ..

/-- A stream that is there after a frame was there before, or the other end has opened it. -/
theorem isSome_receive {c : Conn} {frame : Frame} {id : ℕ}
    (h : ((c.receive frame).1.streams id).isSome = true) :
    (c.streams id).isSome = true ∨ (c.receive frame).2 = some id := by
  unfold receive at h ⊢
  cases frame with
  | syn id' =>
    dsimp only at h ⊢
    split at h
    · rcases eq_or_ne id id' with rfl | hne
      · exact .inr rfl
      · dsimp only at h
        rw [Function.update_of_ne hne] at h
        exact .inl h
    · exact .inl h
  | ack id' | data id' bytes | fin id' | rst id' =>
    dsimp only at h
    rw [isSome_modify] at h
    exact .inl h

/-- A stream that is there after a write to the socket was there before, and its owner's drop is
still on its way if it was. -/
theorem isSome_sendNext {c c' : Conn} {frame : Frame} (h : c.sendNext = some (frame, c')) {id : ℕ}
    (hid : (c'.streams id).isSome = true) :
    (c.streams id).isSome = true ∧ (.dropped id ∈ c.commands → .dropped id ∈ c'.commands) := by
  unfold sendNext at h
  split at h
  · cases h
  · rename_i frame' commands hcommands
    obtain ⟨-, rfl⟩ := Prod.mk.inj (Option.some.inj h)
    refine ⟨hid, fun hmem => ?_⟩
    rw [hcommands] at hmem
    exact (List.mem_cons.mp hmem).resolve_left nofun
  · rename_i id' commands hcommands
    obtain ⟨-, rfl⟩ := Prod.mk.inj (Option.some.inj h)
    dsimp only at hid ⊢
    rcases eq_or_ne id id' with rfl | hne
    · rw [Function.update_self] at hid
      cases hid
    · rw [Function.update_of_ne hne] at hid
      refine ⟨hid, fun hmem => ?_⟩
      rw [hcommands] at hmem
      exact (List.mem_cons.mp hmem).resolve_left fun heq => hne (Command.dropped.inj heq)

/-! ## Reading streams -/

/-- A read takes the first byte off the buffer of its own stream. -/
theorem read_eq_some {c c' : Conn} {id : ℕ} {byte : UInt8} (h : c.read id = some (byte, c')) :
    ∃ stream buffer, c.streams id = some stream ∧ stream.buffer = byte :: buffer ∧
      c' = { c with streams := Function.update c.streams id (some { stream with buffer }) } := by
  unfold read at h
  split at h
  · rename_i outbound acked b buffer remoteClosed hstream
    obtain ⟨rfl, rfl⟩ := Prod.mk.inj (Option.some.inj h)
    exact ⟨_, buffer, hstream, rfl, rfl⟩
  · cases h

/-- A read neither adds nor removes a stream, and leaves the commands. -/
theorem isSome_read {c c' : Conn} {id : ℕ} {byte : UInt8} (h : c.read id = some (byte, c')) :
    (∀ id', (c'.streams id').isSome = (c.streams id').isSome) ∧ c'.commands = c.commands := by
  obtain ⟨stream, buffer, hstream, -, rfl⟩ := read_eq_some h
  refine ⟨fun id' => ?_, rfl⟩
  dsimp only
  rcases eq_or_ne id' id with rfl | hne
  · rw [Function.update_self, hstream]
    rfl
  · rw [Function.update_of_ne hne]

/-- A read leaves the backlog as it is. -/
theorem ackBacklog_read {c c' : Conn} {id : ℕ} {byte : UInt8} (h : c.read id = some (byte, c')) :
    c'.ackBacklog = c.ackBacklog := by
  obtain ⟨stream, buffer, hstream, -, rfl⟩ := read_eq_some h
  refine ackBacklog_congr rfl fun id' => ?_
  unfold unacked
  rcases eq_or_ne id' id with rfl | hne
  · simp only [Function.update_self, hstream]
  · simp only [Function.update_of_ne hne]

/-- A read changes no stream with an empty buffer. -/
theorem read_streams {c c' : Conn} {id id' : ℕ} {byte : UInt8} (h : c.read id = some (byte, c'))
    {stream : Stream} (hstream : c.streams id' = some stream) (hempty : stream.buffer = []) :
    c'.streams id' = some stream := by
  obtain ⟨stream', buffer, hstream', hbuffer, rfl⟩ := read_eq_some h
  have hne : id' ≠ id := by
    rintro rfl
    obtain rfl := Option.some.inj (hstream.symm.trans hstream')
    rw [hempty] at hbuffer
    cases hbuffer
  show Function.update c.streams id _ id' = _
  rw [Function.update_of_ne hne, hstream]

/-- Nothing can be read from a stream with an empty buffer. -/
theorem read_eq_none {c : Conn} {id : ℕ} {stream : Stream} (hstream : c.streams id = some stream)
    (hempty : stream.buffer = []) : c.read id = none := by
  obtain ⟨outbound, acked, buffer, remoteClosed⟩ := stream
  obtain rfl : buffer = [] := hempty
  unfold read
  rw [hstream]

end Conn

end Mux
