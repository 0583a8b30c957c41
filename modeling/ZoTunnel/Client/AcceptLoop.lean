import ZoTunnel.Lib.Mux
import ZoTunnel.Protocol.Message

/-!
# The client's accept loop

The loop of `run_session_with_status` (`client.rs`) after the handshake. The loop polls the client's
connection all the time, and spawns a task for each stream that the server opens. A task reads the
stream type marker: it answers a heartbeat with a pong, and takes every other stream to the local
service. `copy_bidirectional` there ends when both directions have come to their end, or one of them
fails.
-/

namespace ZoTunnel

open Mux

/-- Where a stream's task stands. -/
inductive StreamTask where
  /-- Reads the stream type marker. -/
  | marker
  /-- Writes the pong. -/
  | pong
  /-- Closes the stream of a heartbeat. -/
  | closing
  /-- Pipes the stream to the local service and back, in `handle_tunnel_stream`. -/
  | proxying
  /-- Pipes the stream to the local service, which writes no more. -/
  | draining
  deriving DecidableEq, Repr

/-- The task's pipe reads the stream. -/
def StreamTask.piping : StreamTask → Bool
  | .proxying | .draining => true
  | .marker | .pong | .closing => false

/-- The client's end of a session. -/
structure ClientSession where
  conn : Conn
  /-- The tasks that are running, by their stream. -/
  tasks : ℕ → Option StreamTask

/-- A session after its handshake. -/
def ClientSession.new : ClientSession := ⟨.new, fun _ => none⟩

/-- A step of a stream's task. -/
inductive TaskStep where
  | readMarker (id : ℕ)
  /-- The stream ends before its marker. -/
  | markerError (id : ℕ)
  /-- No marker came within 5 s. -/
  | markerTimeout (id : ℕ)
  | writePong (id : ℕ)
  | close (id : ℕ)
  /-- The client acknowledges the stream. -/
  | ack (id : ℕ)
  /-- Bytes from the local service go into the stream. -/
  | proxyWrite (id : ℕ) (bytes : List UInt8)
  /-- A byte of the stream goes to the local service. -/
  | proxyRead (id : ℕ)
  /-- The local service closes its connection, or its half of it, and the pipe closes the stream. -/
  | localEof (id : ℕ)
  /-- Both directions of the pipe have come to their end. -/
  | proxyEnd (id : ℕ)
  /-- The local service cannot be reached, or one direction of the pipe fails. -/
  | proxyError (id : ℕ)
  deriving DecidableEq, Repr

/-- The task of a stream goes on. -/
def ClientSession.setTask (s : ClientSession) (id : ℕ) (task : StreamTask) : ClientSession :=
  { s with tasks := Function.update s.tasks id (some task) }

/-- The task of a stream ends, which drops the stream. -/
def ClientSession.endTask (s : ClientSession) (id : ℕ) : ClientSession :=
  ⟨s.conn.push (.dropped id), Function.update s.tasks id none⟩

/-- `poll_next_inbound` takes in a frame, and the loop spawns a task for a new stream. -/
def ClientSession.receive (s : ClientSession) (frame : Frame) : ClientSession :=
  match s.conn.receive frame with
  | (conn, some id) => { s with conn }.setTask id .marker
  | (conn, none) => { s with conn }

/-- One step of a stream's task. -/
def ClientSession.taskStep (s : ClientSession) : TaskStep → Option ClientSession
  | .readMarker id =>
    match s.tasks id, s.conn.read id with
    | some .marker, some (marker, conn) =>
      if marker = streamTypeHeartbeat then some ({ s with conn }.setTask id .pong)
      else some ({ s with conn }.setTask id .proxying)
    | _, _ => none
  | .markerError id =>
    if s.tasks id = some .marker ∧ s.conn.eof id then some (s.endTask id) else none
  | .markerTimeout id => if s.tasks id = some .marker then some (s.endTask id) else none
  | .writePong id =>
    if s.tasks id = some .pong then
      let conn := (s.conn.ack id).push (.send (.data id [streamTypeHeartbeat]))
      some ({ s with conn }.setTask id .closing)
    else none
  | .close id =>
    if s.tasks id = some .closing then
      some ({ s with conn := s.conn.push (.send (.fin id)) }.endTask id)
    else none
  | .ack id =>
    if (s.tasks id).isSome then some { s with conn := s.conn.ack id } else none
  | .proxyWrite id bytes =>
    if s.tasks id = some .proxying then
      some { s with conn := s.conn.push (.send (.data id bytes)) }
    else none
  | .proxyRead id =>
    match s.tasks id, s.conn.read id with
    | some task, some (_, conn) => if task.piping then some { s with conn } else none
    | _, _ => none
  | .localEof id =>
    if s.tasks id = some .proxying then
      some ({ s with conn := s.conn.push (.send (.fin id)) }.setTask id .draining)
    else none
  | .proxyEnd id =>
    if s.tasks id = some .draining ∧ s.conn.eof id then some (s.endTask id) else none
  | .proxyError id =>
    match s.tasks id with
    | some task => if task.piping then some (s.endTask id) else none
    | none => none

/-- With no tasks there is no task step. -/
theorem ClientSession.taskStep_of_no_tasks {s : ClientSession} (h : s.tasks = fun _ => none)
    (l : TaskStep) : s.taskStep l = none := by
  cases l <;> simp [taskStep, h]

end ZoTunnel
