import ZoTunnel.Lib.Pipe
import ZoTunnel.Server.YamuxDriver

/-!
# The two kinds of streams

The server opens streams for two purposes, and says with the first byte of each which one it is: a
proxy request (`proxy.rs`) writes `0x00`, and then its HTTP layer writes whatever it likes, and a
heartbeat (`server.rs`) writes `0x01` and nothing else. The client's task reads the first byte: it
answers a heartbeat with a pong, and hands every other stream's bytes to the local service.

`Flow` is what matters of a tunnel for the bytes of its streams, and `FlowMove` what can happen to
them. `StreamInv` is the invariant of one stream, on top of `Pipe`, which every move keeps
(`FlowMove.inv`).
-/

namespace ZoTunnel

open Mux

/-- What the server has a stream for. -/
inductive StreamUse where
  /-- A proxy request, which has not written the marker yet. -/
  | marker
  /-- A proxy request, whose HTTP layer writes. -/
  | http
  /-- A proxy request, which has closed or dropped the stream. -/
  | closed
  /-- A heartbeat, which has not written the marker yet. -/
  | ping
  /-- A heartbeat, which writes no more. -/
  | heartbeat
  deriving DecidableEq, Repr

/-- The stream is a proxy request's. -/
def StreamUse.isProxy : StreamUse → Bool
  | .marker | .http | .closed => true
  | .ping | .heartbeat => false

/-- Whether bytes can still be written to a stream, opened or not. -/
def canWrite : Option StreamUse → Bool
  | none | some .marker | some .http | some .ping => true
  | some .closed | some .heartbeat => false

/-- What matters of a tunnel for the bytes of its streams. -/
structure Flow where
  /-- The frames on the way to the client, from the next to arrive to the last one written. -/
  frames : List Frame
  /-- What the server has the streams for. -/
  uses : ℕ → Option StreamUse
  /-- What the HTTP layer has written to each stream. -/
  written : ℕ → List UInt8
  /-- The streams of the client's connection. -/
  streams : ℕ → Option Stream
  tasks : ℕ → Option StreamTask
  /-- What the local service has received of each stream. -/
  received : ℕ → List UInt8
  /-- Whether a pong has been written to the stream. -/
  ponged : ℕ → Bool

/-- The tasks after a frame has arrived: a stream that is new gets one. -/
def Flow.tasksAfter (f : Flow) : Frame → ℕ → Option StreamTask
  | .syn id => if f.streams id = none then Function.update f.tasks id (some .marker) else f.tasks
  | _ => f.tasks

/-- What can happen. -/
inductive FlowMove (f : Flow) : Flow → Prop where
  | openStream (id : ℕ) (use : StreamUse) (hnew : f.uses id = none)
      (huse : use = .marker ∨ use = .ping) :
    FlowMove f { f with
      frames := f.frames ++ [.syn id], uses := Function.update f.uses id (some use) }
  | writeMarker (id : ℕ) (huse : f.uses id = some .marker) :
    FlowMove f { f with
      frames := f.frames ++ [.data id [streamTypeProxy]]
      uses := Function.update f.uses id (some .http) }
  | writeHttp (id : ℕ) (bytes : List UInt8) (huse : f.uses id = some .http) :
    FlowMove f { f with
      frames := f.frames ++ [.data id bytes]
      written := Function.update f.written id (f.written id ++ bytes) }
  | writePing (id : ℕ) (huse : f.uses id = some .ping) :
    FlowMove f { f with
      frames := f.frames ++ [.data id [streamTypeHeartbeat]]
      uses := Function.update f.uses id (some .heartbeat) }
  /-- The server closes or drops a stream. -/
  | endStream (frame : Frame) (use : StreamUse) (hframe : ∃ id, frame = .fin id ∨ frame = .rst id)
      (huse : f.uses frame.stream = some use) :
    FlowMove f { f with
      frames := f.frames ++ [frame]
      uses := Function.update f.uses frame.stream
        (some (if use.isProxy then .closed else .heartbeat)) }
  | arrive (frame : Frame) (frames : List Frame) (hframes : f.frames = frame :: frames) :
    FlowMove f { f with
      frames
      streams := fun id => frame.arrive id (f.streams id)
      tasks := f.tasksAfter frame }
  | readMarker (id : ℕ) (s : Stream) (marker : UInt8) (buffer : List UInt8)
      (htask : f.tasks id = some .marker) (hstream : f.streams id = some s)
      (hbuffer : s.buffer = marker :: buffer) :
    FlowMove f { f with
      streams := Function.update f.streams id (some { s with buffer })
      tasks := Function.update f.tasks id
        (some (if marker = streamTypeHeartbeat then .pong else .proxying)) }
  | readProxy (id : ℕ) (task : StreamTask) (s : Stream) (byte : UInt8) (buffer : List UInt8)
      (htask : f.tasks id = some task) (hpiping : task.piping = true)
      (hstream : f.streams id = some s) (hbuffer : s.buffer = byte :: buffer) :
    FlowMove f { f with
      streams := Function.update f.streams id (some { s with buffer })
      received := Function.update f.received id (f.received id ++ [byte]) }
  | writePong (id : ℕ) (htask : f.tasks id = some .pong) :
    FlowMove f { f with
      tasks := Function.update f.tasks id (some .closing)
      ponged := Function.update f.ponged id true }
  /-- The local service writes no more. -/
  | drain (id : ℕ) (htask : f.tasks id = some .proxying) :
    FlowMove f { f with tasks := Function.update f.tasks id (some .draining) }
  /-- The client acknowledges a stream. -/
  | ack (id : ℕ) (s : Stream) (hstream : f.streams id = some s) :
    FlowMove f { f with streams := Function.update f.streams id (some { s with acked := true }) }
  | endTask (id : ℕ) : FlowMove f { f with tasks := Function.update f.tasks id none }
  /-- The client's connection removes a stream whose task has ended. -/
  | removeStream (id : ℕ) (htask : f.tasks id = none) (hsyn : .syn id ∉ f.frames)
      (huse : f.uses id ≠ none) :
    FlowMove f { f with streams := Function.update f.streams id none }

/-! ## The invariant of a stream -/

/-- What has been sent to a stream, by what the server has it for. -/
inductive Sent : Option StreamUse → List UInt8 → List UInt8 → Prop where
  | nothing {use : Option StreamUse} (huse : use ≠ some .http) : Sent use [] []
  | proxy {use : StreamUse} {written : List UInt8} (huse : use = .http ∨ use = .closed) :
    Sent (some use) written (streamTypeProxy :: written)
  | heartbeat : Sent (some .heartbeat) [] [streamTypeHeartbeat]

/-- What the client has read of a stream, by where the stream's task stands, or has ended. -/
inductive Taken : Option StreamTask → Bool → List UInt8 → List UInt8 → Prop where
  | nothing {task : Option StreamTask} (htask : task = none ∨ task = some .marker) :
    Taken task false [] []
  | heartbeat {task : Option StreamTask} {ponged : Bool}
      (htask : task = none ∨ task = some .pong ∨ task = some .closing) :
    Taken task ponged [] [streamTypeHeartbeat]
  | proxy {task : Option StreamTask} {marker : UInt8} {received : List UInt8}
      (htask : ∀ running, task = some running → running.piping = true)
      (hmarker : marker ≠ streamTypeHeartbeat) : Taken task false received (marker :: received)

/-- What has been sent stays so when the stream is ended. -/
theorem Sent.ended {use : StreamUse} {written sent : List UInt8}
    (h : Sent (some use) written sent) :
    Sent (some (if use.isProxy then .closed else .heartbeat)) written sent := by
  generalize huse : some use = u at h
  cases h with
  | nothing =>
    refine .nothing ?_
    split_ifs <;> nofun
  | proxy hproxy =>
    obtain rfl := Option.some.inj huse
    rcases hproxy with rfl | rfl <;> exact .proxy (.inr rfl)
  | heartbeat =>
    obtain rfl := Option.some.inj huse
    exact .heartbeat

/-- What has been read stays so when the task ends. -/
theorem Taken.ended {task : Option StreamTask} {ponged : Bool} {received read : List UInt8}
    (h : Taken task ponged received read) : Taken none ponged received read := by
  cases h with
  | nothing => exact .nothing (.inl rfl)
  | heartbeat => exact .heartbeat (.inl rfl)
  | proxy _ hmarker => exact .proxy nofun hmarker

/-- Nothing has been read, or a heartbeat's marker, or another one and what the local service has
received. -/
theorem Taken.cases {task : Option StreamTask} {ponged : Bool} {received read : List UInt8}
    (h : Taken task ponged received read) :
    received = [] ∧ ponged = false ∧ read = [] ∨ received = [] ∧ read = [streamTypeHeartbeat] ∨
      ∃ marker, read = marker :: received ∧ marker ≠ streamTypeHeartbeat ∧ ponged = false := by
  cases h with
  | nothing => exact .inl ⟨rfl, rfl, rfl⟩
  | heartbeat => exact .inr (.inl ⟨rfl, rfl⟩)
  | proxy _ hmarker => exact .inr (.inr ⟨_, rfl, hmarker, rfl⟩)

/-- A task that reads the marker has read nothing yet. -/
theorem Taken.of_marker {task : Option StreamTask} {ponged : Bool} {received read : List UInt8}
    (h : Taken task ponged received read) (htask : task = some .marker) :
    read = [] ∧ received = [] ∧ ponged = false := by
  cases h with
  | nothing => exact ⟨rfl, rfl, rfl⟩
  | heartbeat hother => simp [htask] at hother
  | proxy hother => cases hother _ htask

/-- A task that answers a heartbeat has read its marker. -/
theorem Taken.of_answering {task : Option StreamTask} {ponged : Bool} {received read : List UInt8}
    (h : Taken task ponged received read) (htask : task = some .pong ∨ task = some .closing) :
    read = [streamTypeHeartbeat] ∧ received = [] := by
  cases h with
  | heartbeat => exact ⟨rfl, rfl⟩
  | nothing hother => rcases htask with htask | htask <;> simp [htask] at hother
  | proxy hother => rcases htask with htask | htask <;> cases hother _ htask

/-- A task that pipes has read a marker, and what the local service has received. -/
theorem Taken.of_piping {task : Option StreamTask} {running : StreamTask} {ponged : Bool}
    {received read : List UInt8} (h : Taken task ponged received read)
    (htask : task = some running) (hpiping : running.piping = true) :
    ∃ marker, read = marker :: received ∧ marker ≠ streamTypeHeartbeat ∧ ponged = false := by
  cases h with
  | proxy _ hmarker => exact ⟨_, rfl, hmarker, rfl⟩
  | nothing hother =>
    have hmarker := hother.resolve_left fun hnone => absurd (hnone.symm.trans htask) nofun
    obtain rfl := Option.some.inj (hmarker.symm.trans htask)
    cases hpiping
  | heartbeat hother =>
    rcases hother with hother | hother | hother <;> rw [hother] at htask <;> cases htask <;>
      cases hpiping

/-- The invariant of one stream. -/
structure StreamInv (f : Flow) (id : ℕ) : Prop where
  bytes : ∃ read sent, Pipe id (canWrite (f.uses id)) f.frames (f.streams id) read sent ∧
    Sent (f.uses id) (f.written id) sent ∧
    Taken (f.tasks id) (f.ponged id) (f.received id) read
  /-- A running task has its stream. -/
  tasked : f.tasks id ≠ none → f.streams id ≠ none
  unopened : f.uses id = none → .syn id ∉ f.frames ∧ f.streams id = none

/-- What the two flows say of one stream is the same, but for the frames. -/
structure SameAt (id : ℕ) (f f' : Flow) : Prop where
  uses : f'.uses id = f.uses id
  written : f'.written id = f.written id
  streams : f'.streams id = f.streams id
  tasks : f'.tasks id = f.tasks id
  received : f'.received id = f.received id
  ponged : f'.ponged id = f.ponged id

/-- Nothing happens to the stream. -/
theorem StreamInv.same {f f' : Flow} {id : ℕ} (h : StreamInv f id) (hsame : SameAt id f f')
    (hframes : f'.frames = f.frames) : StreamInv f' id := by
  obtain ⟨huses, hwritten, hstreams, htasks, hreceived, hponged⟩ := hsame
  constructor
  · rw [huses, hwritten, hstreams, htasks, hreceived, hponged, hframes]
    exact h.bytes
  · rw [htasks, hstreams]
    exact h.tasked
  · rw [huses, hstreams, hframes]
    exact h.unopened

/-- A frame about another stream is written. -/
theorem StreamInv.push_other {f f' : Flow} {id : ℕ} (frame : Frame) (h : StreamInv f id)
    (hsame : SameAt id f f') (hother : frame.stream ≠ id)
    (hframes : f'.frames = f.frames ++ [frame]) :
    StreamInv f' id := by
  obtain ⟨hsyn, hbytes, hends⟩ := Frame.other hother
  obtain ⟨huses, hwritten, hstreams, htasks, hreceived, hponged⟩ := hsame
  obtain ⟨read, sent, hpipe, hsent, htaken⟩ := h.bytes
  constructor
  · rw [huses, hwritten, hstreams, htasks, hreceived, hponged, hframes]
    exact ⟨read, sent, hpipe.push hsyn hbytes fun hwriting => ⟨hwriting, hends⟩, hsent, htaken⟩
  · rw [htasks, hstreams]
    exact h.tasked
  · rw [huses, hstreams, hframes]
    intro hnone
    obtain ⟨hnosyn, hstream⟩ := h.unopened hnone
    refine ⟨fun hmem => ?_, hstream⟩
    rcases List.mem_append.mp hmem with hmem | hmem
    · exact hnosyn hmem
    · exact hsyn (List.mem_singleton.mp hmem).symm

/-- Nothing has been sent before the marker. -/
theorem Sent.eq_nil {use : Option StreamUse} {written sent : List UInt8} (h : Sent use written sent)
    (huse : use = none ∨ use = some .marker ∨ use = some .ping) : written = [] ∧ sent = [] := by
  cases h with
  | nothing => exact ⟨rfl, rfl⟩
  | proxy hother => rcases hother with rfl | rfl <;> simp at huse
  | heartbeat => simp at huse

/-- Nothing has been read of a stream that has not been opened. -/
theorem StreamInv.taken_of_unopened {f : Flow} {id : ℕ} (h : StreamInv f id)
    (hnew : f.uses id = none) :
    Pipe id true f.frames none [] [] ∧ f.written id = [] ∧
      Taken (f.tasks id) (f.ponged id) (f.received id) [] := by
  obtain ⟨read, sent, hpipe, hsent, htaken⟩ := h.bytes
  obtain ⟨-, hstream⟩ := h.unopened hnew
  rw [hnew] at hpipe hsent
  rw [hstream] at hpipe
  obtain ⟨hwritten, rfl⟩ := hsent.eq_nil (.inl rfl)
  obtain rfl := List.prefix_nil.mp hpipe.ordered
  exact ⟨hpipe, hwritten, htaken⟩

/-- The server writes to a stream that it has open. -/
theorem StreamInv.write {f f' : Flow} {id : ℕ} {bytes : List UInt8} {use : StreamUse}
    (h : StreamInv f id) (hcan : canWrite (f.uses id) = true)
    (hframes : f'.frames = f.frames ++ [.data id bytes])
    (huses : f'.uses id = some use)
    (hsent : ∀ sent, Sent (f.uses id) (f.written id) sent →
      Sent (some use) (f'.written id) (sent ++ bytes))
    (hclient : f'.streams id = f.streams id ∧ f'.tasks id = f.tasks id ∧
      f'.received id = f.received id ∧ f'.ponged id = f.ponged id) : StreamInv f' id := by
  obtain ⟨hstreams, htasks, hreceived, hponged⟩ := hclient
  obtain ⟨read, sent, hpipe, hbefore, htaken⟩ := h.bytes
  rw [hcan] at hpipe
  constructor
  · rw [huses, hstreams, htasks, hreceived, hponged, hframes]
    exact ⟨read, sent ++ bytes, (hpipe.write bytes).weaken fun _ => rfl, hsent sent hbefore, htaken⟩
  · rw [htasks, hstreams]
    exact h.tasked
  · rw [huses]
    nofun

/-- The client's end of a stream changes, and what is written to it does not. -/
theorem StreamInv.client {f f' : Flow} {id : ℕ} (h : StreamInv f id)
    (hserver : f'.uses id = f.uses id ∧ f'.written id = f.written id ∧ f'.frames = f.frames)
    (hbytes : ∀ read sent, Pipe id (canWrite (f.uses id)) f.frames (f.streams id) read sent →
      Taken (f.tasks id) (f.ponged id) (f.received id) read →
        ∃ read', Pipe id (canWrite (f.uses id)) f.frames (f'.streams id) read' sent ∧
          Taken (f'.tasks id) (f'.ponged id) (f'.received id) read')
    (htasked : f'.tasks id ≠ none → f'.streams id ≠ none)
    (hnew : f.streams id = none → f'.streams id = none) : StreamInv f' id := by
  obtain ⟨huses, hwritten, hframes⟩ := hserver
  obtain ⟨read, sent, hpipe, hsent, htaken⟩ := h.bytes
  obtain ⟨read', hpipe', htaken'⟩ := hbytes read sent hpipe htaken
  constructor
  · rw [huses, hwritten, hframes]
    exact ⟨read', sent, hpipe', hsent, htaken'⟩
  · exact htasked
  · rw [huses, hframes]
    exact fun hnone => ⟨(h.unopened hnone).1, hnew (h.unopened hnone).2⟩

/-- The client's end reads of a stream, or changes nothing that is to be read. -/
theorem StreamInv.modify {f f' : Flow} {id : ℕ} {s s' : Stream} (h : StreamInv f id)
    (hserver : f'.uses id = f.uses id ∧ f'.written id = f.written id ∧ f'.frames = f.frames)
    (hstream : f.streams id = some s) (hstream' : f'.streams id = some s')
    (hclosed : s'.remoteClosed = s.remoteClosed)
    (htaken : ∀ read, Taken (f.tasks id) (f.ponged id) (f.received id) read →
      ∃ read', read' ++ s'.buffer = read ++ s.buffer ∧
        Taken (f'.tasks id) (f'.ponged id) (f'.received id) read') : StreamInv f' id := by
  refine h.client hserver ?_ (fun _ => ?_) fun hnone => absurd (hnone.symm.trans hstream) nofun
  · intro read sent hpipe hbefore
    obtain ⟨read', hbuffer, hafter⟩ := htaken read hbefore
    rw [hstream] at hpipe
    rw [hstream']
    exact ⟨read', hpipe.modify hbuffer hclosed, hafter⟩
  · rw [hstream']
    exact Option.some_ne_none s'

/-- The next frame arrives. -/
theorem StreamInv.arrive {f : Flow} {id : ℕ} {frame : Frame} {frames : List Frame}
    (h : StreamInv f id) (hframes : f.frames = frame :: frames) :
    StreamInv { f with
      frames
      streams := fun id => frame.arrive id (f.streams id)
      tasks := f.tasksAfter frame } id := by
  obtain ⟨read, sent, hpipe, hsent, htaken⟩ := h.bytes
  rw [hframes] at hpipe
  -- A frame leaves a stream where there was one.
  have hkeeps : f.streams id ≠ none → frame.arrive id (f.streams id) ≠ none := by
    intro hstream
    obtain ⟨s, hs⟩ := Option.ne_none_iff_exists'.mp hstream
    obtain ⟨s', hs', -⟩ := frame.arrive_some id s
    rw [hs, hs']
    exact Option.some_ne_none s'
  by_cases hopens : frame = .syn id
  · -- The stream is new, and so is its task.
    obtain ⟨hstream, rfl⟩ := hpipe.opening (hopens ▸ List.mem_cons_self)
    have htasks : f.tasksAfter frame = Function.update f.tasks id (some .marker) := by
      rw [hopens]
      exact if_pos hstream
    have harrive := hpipe.arrive
    rw [hopens, hstream, Frame.arrive_syn] at harrive
    constructor
    · refine ⟨[], sent, ?_, hsent, ?_⟩
      · show Pipe id _ frames (frame.arrive id (f.streams id)) [] sent
        rw [hopens, hstream, Frame.arrive_syn]
        exact harrive
      · show Taken (f.tasksAfter frame id) (f.ponged id) (f.received id) []
        rw [htasks, Function.update_self]
        generalize f.tasks id = task, f.ponged id = ponged, f.received id = received at htaken
        cases htaken
        exact .nothing (.inr rfl)
    · intro _
      show frame.arrive id (f.streams id) ≠ none
      rw [hopens, hstream, Frame.arrive_syn]
      exact Option.some_ne_none _
    · intro hnone
      exact absurd (hframes ▸ hopens ▸ List.mem_cons_self) (h.unopened hnone).1
  · have htask : f.tasksAfter frame id = f.tasks id := by
      unfold Flow.tasksAfter
      split
      · rename_i id'
        have hne : id ≠ id' := fun heq => hopens (by rw [heq])
        split_ifs
        · exact Function.update_of_ne hne _ _
        · rfl
      · rfl
    constructor
    · refine ⟨read, sent, hpipe.arrive, hsent, ?_⟩
      show Taken (f.tasksAfter frame id) _ _ _
      rw [htask]
      exact htaken
    · show f.tasksAfter frame id ≠ none → _
      rw [htask]
      exact fun hrunning => hkeeps (h.tasked hrunning)
    · intro hnone
      obtain ⟨hnosyn, hstream⟩ := h.unopened hnone
      refine ⟨fun hmem => hnosyn (hframes ▸ List.mem_cons_of_mem _ hmem), ?_⟩
      show frame.arrive id (f.streams id) = none
      rw [hstream, Frame.arrive_none hopens]

/-- The server ends a stream. -/
theorem StreamInv.ends {f f' : Flow} {frame : Frame} {use : StreamUse}
    (h : StreamInv f frame.stream) (hframe : ∃ id, frame = .fin id ∨ frame = .rst id)
    (huse : f.uses frame.stream = some use)
    (huses : f'.uses frame.stream = some (if use.isProxy then .closed else .heartbeat))
    (hframes : f'.frames = f.frames ++ [frame])
    (hother : f'.written frame.stream = f.written frame.stream ∧
      f'.streams frame.stream = f.streams frame.stream ∧
      f'.tasks frame.stream = f.tasks frame.stream ∧
      f'.received frame.stream = f.received frame.stream ∧
      f'.ponged frame.stream = f.ponged frame.stream) : StreamInv f' frame.stream := by
  obtain ⟨hwritten, hstreams, htasks, hreceived, hponged⟩ := hother
  obtain ⟨read, sent, hpipe, hsent, htaken⟩ := h.bytes
  have hquiet : frame ≠ .syn frame.stream ∧ frame.bytesFor frame.stream = [] := by
    obtain ⟨id, rfl | rfl⟩ := hframe <;> exact ⟨nofun, rfl⟩
  constructor
  · rw [huses, hwritten, hstreams, htasks, hreceived, hponged, hframes]
    refine ⟨read, sent, hpipe.push hquiet.1 hquiet.2 fun hwriting => ?_, ?_, htaken⟩
    · cases hproxy : use.isProxy <;> rw [hproxy] at hwriting <;> cases hwriting
    · rw [huse] at hsent
      exact hsent.ended
  · rw [htasks, hstreams]
    exact h.tasked
  · rw [huses]
    nofun

/-- Every move keeps the invariant of every stream. -/
theorem FlowMove.inv {f f' : Flow} (hmove : FlowMove f f') (h : ∀ id, StreamInv f id) (id : ℕ) :
    StreamInv f' id := by
  have hid := h id
  cases hmove with
  -- Each case: the stream that the move is about, and then every other one.
  | openStream i use hnew huse =>
    by_cases hne : id = i
    · subst hne
      -- Nothing has been sent to it or read of it yet.
      obtain ⟨hpipe, hwritten, htaken⟩ := hid.taken_of_unopened hnew
      obtain ⟨hnosyn, hstream⟩ := hid.unopened hnew
      have hcan : canWrite (some use) = true := by rcases huse with rfl | rfl <;> rfl
      constructor
      · dsimp only
        rw [Function.update_self, hcan, hwritten, hstream]
        refine ⟨[], [], hpipe.openStream hnosyn, .nothing ?_, htaken⟩
        rcases huse with rfl | rfl <;> nofun
      · exact hid.tasked
      · dsimp only
        rw [Function.update_self]
        nofun
    · exact hid.push_other (.syn i) ⟨Function.update_of_ne hne _ _, rfl, rfl, rfl, rfl, rfl⟩
        (Ne.symm hne) rfl
  | writeMarker i huse =>
    by_cases hne : id = i
    · subst hne
      refine hid.write (by rw [huse]; rfl) rfl (Function.update_self ..) ?_ ⟨rfl, rfl, rfl, rfl⟩
      intro sent hsent
      rw [huse] at hsent
      obtain ⟨hwritten, rfl⟩ := hsent.eq_nil (.inr (.inl rfl))
      show Sent _ (f.written id) _
      rw [hwritten]
      exact .proxy (.inl rfl)
    · exact hid.push_other (.data i _) ⟨Function.update_of_ne hne _ _, rfl, rfl, rfl, rfl, rfl⟩
        (Ne.symm hne) rfl
  | writeHttp i bytes huse =>
    by_cases hne : id = i
    · subst hne
      refine hid.write (by rw [huse]; rfl) rfl huse ?_ ⟨rfl, rfl, rfl, rfl⟩
      intro sent hsent
      rw [huse] at hsent
      dsimp only
      rw [Function.update_self]
      generalize f.written id = written at hsent ⊢
      cases hsent with
      | nothing hother => exact absurd rfl hother
      | proxy => exact .proxy (.inl rfl)
    · exact hid.push_other (.data i _) ⟨rfl, Function.update_of_ne hne _ _, rfl, rfl, rfl, rfl⟩
        (Ne.symm hne) rfl
  | writePing i huse =>
    by_cases hne : id = i
    · subst hne
      refine hid.write (by rw [huse]; rfl) rfl (Function.update_self ..) ?_ ⟨rfl, rfl, rfl, rfl⟩
      intro sent hsent
      rw [huse] at hsent
      obtain ⟨hwritten, rfl⟩ := hsent.eq_nil (.inr (.inr rfl))
      show Sent _ (f.written id) _
      rw [hwritten]
      exact .heartbeat
    · exact hid.push_other (.data i _) ⟨Function.update_of_ne hne _ _, rfl, rfl, rfl, rfl, rfl⟩
        (Ne.symm hne) rfl
  | endStream frame use hframe huse =>
    by_cases hne : id = frame.stream
    · subst hne
      exact hid.ends hframe huse (Function.update_self ..) rfl ⟨rfl, rfl, rfl, rfl, rfl⟩
    · exact hid.push_other frame ⟨Function.update_of_ne hne _ _, rfl, rfl, rfl, rfl, rfl⟩
        (Ne.symm hne) rfl
  | arrive frame frames hframes => exact hid.arrive hframes
  | readMarker i s marker buffer htask hstream hbuffer =>
    by_cases hne : id = i
    · subst hne
      refine hid.modify ⟨rfl, rfl, rfl⟩ hstream (Function.update_self ..) rfl fun read htaken => ?_
      -- The marker is what decides whether the stream is answered or piped.
      obtain ⟨rfl, hreceived, hponged⟩ := htaken.of_marker htask
      refine ⟨[marker], hbuffer.symm, ?_⟩
      dsimp only
      rw [Function.update_self, hreceived, hponged]
      split_ifs with hmarker
      · rw [hmarker]
        exact .heartbeat (.inr (.inl rfl))
      · refine .proxy (fun running hrunning => ?_) hmarker
        rw [← Option.some.inj hrunning]
        rfl
    · exact hid.same
        ⟨rfl, rfl, Function.update_of_ne hne _ _, Function.update_of_ne hne _ _, rfl, rfl⟩ rfl
  | readProxy i task s byte buffer htask hpiping hstream hbuffer =>
    by_cases hne : id = i
    · subst hne
      refine hid.modify ⟨rfl, rfl, rfl⟩ hstream (Function.update_self ..) rfl fun read htaken => ?_
      -- Behind the marker, what is read is what the local service receives.
      obtain ⟨marker, rfl, hmarker, hponged⟩ := htaken.of_piping htask hpiping
      refine ⟨marker :: (f.received id ++ [byte]), by rw [hbuffer]; simp, ?_⟩
      dsimp only
      rw [Function.update_self, htask, hponged]
      exact .proxy (fun running hrunning => Option.some.inj hrunning ▸ hpiping) hmarker
    · exact hid.same
        ⟨rfl, rfl, Function.update_of_ne hne _ _, rfl, Function.update_of_ne hne _ _, rfl⟩ rfl
  | writePong i htask =>
    by_cases hne : id = i
    · subst hne
      -- The answer goes to a heartbeat, since only its marker leads to this task.
      have hrunning : f.streams id ≠ none := hid.tasked (by rw [htask]; nofun)
      refine hid.client ⟨rfl, rfl, rfl⟩ ?_ (fun _ => hrunning) fun hnone => hnone
      intro read sent hpipe htaken
      obtain ⟨rfl, hreceived⟩ := htaken.of_answering (.inl htask)
      refine ⟨_, hpipe, ?_⟩
      dsimp only
      rw [Function.update_self, Function.update_self, hreceived]
      exact .heartbeat (.inr (.inr rfl))
    · exact hid.same
        ⟨rfl, rfl, rfl, Function.update_of_ne hne _ _, rfl, Function.update_of_ne hne _ _⟩ rfl
  | drain i htask =>
    by_cases hne : id = i
    · subst hne
      have hrunning : f.streams id ≠ none := hid.tasked (by rw [htask]; nofun)
      refine hid.client ⟨rfl, rfl, rfl⟩ ?_ (fun _ => hrunning) fun hnone => hnone
      intro read sent hpipe htaken
      obtain ⟨marker, rfl, hmarker, hponged⟩ := htaken.of_piping htask rfl
      refine ⟨_, hpipe, ?_⟩
      dsimp only
      rw [Function.update_self, hponged]
      exact .proxy (fun running hrunning => Option.some.inj hrunning ▸ rfl) hmarker
    · exact hid.same ⟨rfl, rfl, rfl, Function.update_of_ne hne _ _, rfl, rfl⟩ rfl
  | ack i s hstream =>
    by_cases hne : id = i
    · subst hne
      exact hid.modify ⟨rfl, rfl, rfl⟩ hstream (Function.update_self ..) rfl
        fun read htaken => ⟨read, rfl, htaken⟩
    · exact hid.same ⟨rfl, rfl, Function.update_of_ne hne _ _, rfl, rfl, rfl⟩ rfl
  | endTask i =>
    by_cases hne : id = i
    · subst hne
      refine hid.client ⟨rfl, rfl, rfl⟩ ?_
        (fun hrunning => absurd (Function.update_self ..) hrunning)
        fun hnone => hnone
      intro read sent hpipe htaken
      refine ⟨read, hpipe, ?_⟩
      dsimp only
      rw [Function.update_self]
      exact htaken.ended
    · exact hid.same ⟨rfl, rfl, rfl, Function.update_of_ne hne _ _, rfl, rfl⟩ rfl
  | removeStream i htask hsyn huse =>
    by_cases hne : id = i
    · subst hne
      refine hid.client ⟨rfl, rfl, rfl⟩ ?_ (fun hrunning => absurd htask hrunning)
        fun _ => Function.update_self ..
      intro read sent hpipe htaken
      refine ⟨read, ?_, htaken⟩
      dsimp only
      rw [Function.update_self]
      exact hpipe.remove hsyn
    · exact hid.same ⟨rfl, rfl, Function.update_of_ne hne _ _, rfl, rfl, rfl⟩ rfl

end ZoTunnel
