import Mathlib.Data.List.Basic

/-!
# A connection with a preamble

One direction of a connection that delivers its bytes in order. The writer sends a preamble first,
in as many writes as it takes, and then a stream. The reader takes the preamble, and then gives what
comes to the reader of the stream.

`Channel.delivered` says that the reader of the stream gets what the writer of the stream wrote,
when the reader of the preamble has taken exactly the preamble. Where the writer stands does not
matter, nor whether it has stopped on its way.
-/

namespace Preamble

/-- One direction of a connection, with the bytes that have gone over it. -/
structure Channel where
  /-- The bytes on their way. -/
  queue : List UInt8
  /-- All bytes written, and all bytes read. -/
  sent : List UInt8
  got : List UInt8
  /-- Those that the writer of the stream wrote, and those that the reader of the stream read. -/
  streamed : List UInt8
  received : List UInt8
  deriving DecidableEq, Repr

namespace Channel

/-- A connection over which nothing has gone. -/
def new : Channel := ⟨[], [], [], [], []⟩

variable (c : Channel) (bytes : List UInt8) (k : ℕ)

/-- Write bytes of the preamble. -/
def write : Channel := { c with queue := c.queue ++ bytes, sent := c.sent ++ bytes }

/-- Read bytes of the preamble. -/
def read : Channel := { c with queue := c.queue.drop k, got := c.got ++ c.queue.take k }

/-- Write bytes of the stream. -/
def stream : Channel :=
  { c with
    queue := c.queue ++ bytes, sent := c.sent ++ bytes, streamed := c.streamed ++ bytes }

/-- Read bytes of the stream. -/
def receive : Channel :=
  { c with
    queue := c.queue.drop k, got := c.got ++ c.queue.take k
    received := c.received ++ c.queue.take k }

/-- Nothing is lost, and nothing overtakes. -/
def Fifo : Prop := c.got ++ c.queue = c.sent

/-- The writer has to write the rest of the preamble. -/
def Writing (pre left : List UInt8) : Prop := c.sent ++ left = pre ∧ c.streamed = []

/-- The writer has written the preamble. -/
def Written (pre : List UInt8) : Prop := c.sent = pre ++ c.streamed

/-- The reader has read a part of the preamble. -/
def Reading (got : List UInt8) : Prop := c.got = got ∧ c.received = []

/-- The reader has read the preamble, and no byte beyond it. -/
def Read (pre : List UInt8) : Prop := c.got = pre ++ c.received

/-- The writer is at the preamble, or behind it. -/
def Writes (pre : List UInt8) : Prop := (∃ left, c.Writing pre left) ∨ c.Written pre

variable {c bytes k} {pre left got : List UInt8}

/-- Nothing is lost at the start. -/
theorem fifo_new : new.Fifo := rfl

/-- Writing loses nothing. -/
theorem Fifo.write (h : c.Fifo) (bytes : List UInt8) : (c.write bytes).Fifo := by
  unfold Fifo Channel.write at *
  rw [← List.append_assoc, h]

/-- Reading loses nothing. -/
theorem Fifo.read (h : c.Fifo) (k : ℕ) : (c.read k).Fifo := by
  unfold Fifo Channel.read at *
  rw [List.append_assoc, List.take_append_drop, h]

/-- Writing to the stream loses nothing. -/
theorem Fifo.stream (h : c.Fifo) (bytes : List UInt8) : (c.stream bytes).Fifo :=
  Fifo.write h bytes

/-- Reading from the stream loses nothing. -/
theorem Fifo.receive (h : c.Fifo) (k : ℕ) : (c.receive k).Fifo :=
  Fifo.read h k

/-- A part of the preamble is written. -/
theorem Writing.write (h : c.Writing pre left) (k : ℕ) :
    (c.write (left.take k)).Writing pre (left.drop k) := by
  obtain ⟨hsent, hstreamed⟩ := h
  refine ⟨?_, hstreamed⟩
  unfold Channel.write
  rw [List.append_assoc, List.take_append_drop, hsent]

/-- When nothing of the preamble is left, it is written. -/
theorem Writing.written (h : c.Writing pre []) : c.Written pre := by
  obtain ⟨hsent, hstreamed⟩ := h
  unfold Written
  rw [hstreamed, List.append_nil, ← hsent, List.append_nil]

/-- After the preamble the stream is written. -/
theorem Written.stream (h : c.Written pre) (bytes : List UInt8) : (c.stream bytes).Written pre := by
  unfold Written Channel.stream at *
  rw [← List.append_assoc, h]

/-- A part of the preamble is read. -/
theorem Reading.read (h : c.Reading got) (k : ℕ) : (c.read k).Reading (got ++ c.queue.take k) := by
  obtain ⟨hgot, hreceived⟩ := h
  refine ⟨?_, hreceived⟩
  unfold Channel.read
  rw [hgot]

/-- When the preamble is what has been read, it is read. -/
theorem Reading.finish (h : c.Reading pre) : c.Read pre := by
  obtain ⟨hgot, hreceived⟩ := h
  unfold Read
  rw [hreceived, List.append_nil, hgot]

/-- After the preamble the stream is read. -/
theorem Read.receive (h : c.Read pre) (k : ℕ) : (c.receive k).Read pre := by
  unfold Read Channel.receive at *
  rw [← List.append_assoc, h]

/-- Whatever has been read, and is on its way, is the preamble with what comes before or after. -/
theorem Writes.exists_append (h : c.Writes pre) (hfifo : c.Fifo) :
    ∃ left streamed, c.got ++ (c.queue ++ left) = pre ++ streamed := by
  unfold Fifo at hfifo
  rcases h with ⟨left, hsent, -⟩ | hwritten
  · exact ⟨left, [], by rw [← List.append_assoc, hfifo, hsent, List.append_nil]⟩
  · exact ⟨[], c.streamed, by rw [List.append_nil, hfifo, hwritten]⟩

/-- The reader of the stream gets what the writer of the stream writes. -/
theorem delivered (hfifo : c.Fifo) (hwrites : c.Writes pre) (hread : c.Read pre) :
    c.received ++ c.queue = c.streamed := by
  unfold Fifo at hfifo
  rw [hread, List.append_assoc] at hfifo
  rcases hwrites with ⟨left, hsent, hstreamed⟩ | hwritten
  · -- The preamble has been read, so that nothing of it is left to write.
    rw [← hfifo, List.append_assoc] at hsent
    have hnone := List.append_right_eq_self.mp hsent
    rw [hstreamed, (List.append_eq_nil_iff.mp hnone).1]
  · rw [hwritten] at hfifo
    exact List.append_cancel_left hfifo

end Channel

end Preamble
