import ZoTunnel.Lib.Mux

/-!
# One stream on its way

What one end writes to a stream passes through its commands and over the socket, and waits in the
buffer of the other end's stream until it is read there. `Pipe` follows one stream on this way: the
frames that are still to arrive, the other end's stream, the bytes that have been read from it, and
the bytes that were written. Nothing is lost, repeated or reordered as long as the other end has the
stream (`Pipe.written_eq`), and when a read there returns the end of the stream everything that was
written has been read (`Pipe.read_eq_written`).

Each lemma is about one thing that can happen to the stream, or to another stream beside it.
-/

namespace Mux

/-- The bytes that a frame brings to a stream. -/
def Frame.bytesFor (id : ℕ) : Frame → List UInt8
  | .data id' bytes => if id' = id then bytes else []
  | _ => []

/-- Whether a frame ends a stream. -/
def Frame.ends (id : ℕ) : Frame → Bool
  | .fin id' | .rst id' => id' == id
  | _ => false

/-- The frame that a command comes to on the socket. -/
def Command.frame : Command → Frame
  | .send frame => frame
  | .dropped id => .rst id

/-- What a frame does to one stream of the end that takes it in. -/
def Frame.arrive (id : ℕ) (frame : Frame) (stream : Option Stream) : Option Stream :=
  match frame, stream with
  | .syn id', none => if id' = id then some ⟨false, false, [], false⟩ else none
  | .ack id', some s => if id' = id then some { s with acked := true } else some s
  | .data id' bytes, some s =>
    if id' = id then some { s with buffer := s.buffer ++ bytes } else some s
  | .fin id', some s | .rst id', some s =>
    if id' = id then some { s with remoteClosed := true } else some s
  | _, stream => stream

/-- The bytes that frames bring to a stream. -/
def bytesFor (id : ℕ) (frames : List Frame) : List UInt8 := frames.flatMap (Frame.bytesFor id)

/-- The stream when the frames have arrived. -/
def arrived (id : ℕ) (frames : List Frame) (stream : Option Stream) : Option Stream :=
  frames.foldl (fun stream frame => frame.arrive id stream) stream

/-- The stream that a frame is about. -/
def Frame.stream : Frame → ℕ
  | .syn id | .ack id | .data id _ | .fin id | .rst id => id

/-! ## What frames do to a stream -/

/-- A frame about one stream says nothing to another. -/
theorem Frame.other {id : ℕ} {frame : Frame} (h : frame.stream ≠ id) :
    frame ≠ .syn id ∧ frame.bytesFor id = [] ∧ frame.ends id = false := by
  cases frame with
  | syn id' | ack id' | data id' bytes | fin id' | rst id' =>
    have hne : id' ≠ id := h
    simp [bytesFor, ends, hne]

/-- A stream that is there keeps its bytes, and gets those of the frame behind them. -/
theorem Frame.arrive_some (id : ℕ) (frame : Frame) (s : Stream) :
    ∃ s', frame.arrive id (some s) = some s' ∧ s'.buffer = s.buffer ++ frame.bytesFor id ∧
      s'.remoteClosed = (s.remoteClosed || frame.ends id) := by
  cases frame with
  | syn id' => exact ⟨s, rfl, by simp [bytesFor], by simp [ends]⟩
  | ack id' | data id' bytes | fin id' | rst id' =>
    unfold arrive bytesFor ends
    by_cases h : id' = id <;> simp [h]

/-- Only its first frame brings a stream about. -/
theorem Frame.arrive_none {id : ℕ} {frame : Frame} (h : frame ≠ .syn id) :
    frame.arrive id none = none := by
  cases frame with
  | syn id' =>
    exact if_neg fun heq => h (by rw [heq])
  | _ => rfl

/-- The stream is new when it has been opened. -/
theorem Frame.arrive_syn (id : ℕ) :
    (Frame.syn id).arrive id none = some ⟨false, false, [], false⟩ :=
  if_pos rfl

/-- The last frame arrives behind the others. -/
theorem arrived_concat (id : ℕ) (frames : List Frame) (frame : Frame) (stream : Option Stream) :
    arrived id (frames ++ [frame]) stream = frame.arrive id (arrived id frames stream) := by
  unfold arrived
  rw [List.foldl_append]
  rfl

/-- A stream that is there gets the bytes of all frames. -/
theorem arrived_some (id : ℕ) (frames : List Frame) (s : Stream) :
    ∃ s', arrived id frames (some s) = some s' ∧ s'.buffer = s.buffer ++ bytesFor id frames := by
  induction frames generalizing s with
  | nil => exact ⟨s, rfl, (List.append_nil _).symm⟩
  | cons frame frames ih =>
    obtain ⟨s₁, hs₁, hbuffer₁, -⟩ := frame.arrive_some id s
    obtain ⟨s₂, hs₂, hbuffer₂⟩ := ih s₁
    refine ⟨s₂, ?_, ?_⟩
    · rw [← hs₂, ← hs₁]
      rfl
    · rw [hbuffer₂, hbuffer₁, List.append_assoc]
      rfl

/-- Without its first frame there is no stream. -/
theorem arrived_none {id : ℕ} {frames : List Frame} (h : .syn id ∉ frames) :
    arrived id frames none = none := by
  induction frames with
  | nil => rfl
  | cons frame frames ih =>
    have hne : frame ≠ .syn id := fun heq => h (heq ▸ List.mem_cons_self)
    show arrived id frames (frame.arrive id none) = none
    rw [Frame.arrive_none hne, ih fun hmem => h (List.mem_cons_of_mem _ hmem)]

/-! ## The invariant of a stream -/

/-- One stream: whether its writer can still write, the frames that are to arrive, the stream at the
reader's end, and what has been read and written. -/
structure Pipe (id : ℕ) (writing : Bool) (frames : List Frame) (stream : Option Stream)
    (read written : List UInt8) : Prop where
  /-- The stream is opened once. -/
  once : frames.count (.syn id) ≤ 1
  /-- Before it is opened nothing is read. -/
  opening : .syn id ∈ frames → stream = none ∧ read = []
  ordered : read <+: written
  /-- What is written is read, or it is in the buffer when all frames have arrived. -/
  whole : ∀ s, arrived id frames stream = some s → read ++ s.buffer = written
  /-- No bytes come behind the end. -/
  last : frames.Pairwise fun frame later => frame.ends id = true → later.bytesFor id = []
  closed : ∀ s, stream = some s → s.remoteClosed = true → ∀ frame ∈ frames, frame.bytesFor id = []
  /-- The end has not been written while the writer can still write. -/
  unended : writing = true →
    (∀ frame ∈ frames, frame.ends id = false) ∧ ∀ s, stream = some s → s.remoteClosed = false

namespace Pipe

variable {id : ℕ} {writing : Bool} {frames : List Frame} {stream : Option Stream}
  {read written : List UInt8}

/-- A stream that has not been opened. -/
theorem unopened (id : ℕ) : Pipe id true [] none [] [] where
  once := Nat.zero_le 1
  opening := nofun
  ordered := List.prefix_rfl
  whole := nofun
  last := List.Pairwise.nil
  closed := nofun
  unended _ := ⟨nofun, nofun⟩

/-- A stream that the reader's end has was opened before. -/
theorem notMem_of_some {s : Stream} (h : Pipe id writing frames (some s) read written) :
    .syn id ∉ frames := fun hmem => Option.some_ne_none s (h.opening hmem).1

/-- Nothing is lost, repeated or reordered while the reader's end has the stream. -/
theorem written_eq {s : Stream} (h : Pipe id writing frames (some s) read written) :
    read ++ (s.buffer ++ bytesFor id frames) = written := by
  obtain ⟨s', hs', hbuffer⟩ := arrived_some id frames s
  rw [← hbuffer]
  exact h.whole s' hs'

/-- When a read returns the end of the stream, everything that was written has been read. -/
theorem read_eq_written {s : Stream} (h : Pipe id writing frames (some s) read written)
    (hempty : s.buffer = []) (hclosed : s.remoteClosed = true) : read = written := by
  have hnone : bytesFor id frames = [] := List.flatMap_eq_nil_iff.mpr (h.closed s rfl hclosed)
  have hwritten := h.written_eq
  rwa [hempty, hnone, List.append_nil, List.append_nil] at hwritten

/-- The next frame arrives. -/
theorem arrive {frame : Frame} (h : Pipe id writing (frame :: frames) stream read written) :
    Pipe id writing frames (frame.arrive id stream) read written where
  once := (List.count_le_count_cons).trans h.once
  opening hmem := by
    obtain ⟨rfl, hread⟩ := h.opening (List.mem_cons_of_mem _ hmem)
    refine ⟨Frame.arrive_none ?_, hread⟩
    -- The frame that opens the stream comes once.
    rintro rfl
    have honce := h.once
    have hpos : 0 < frames.count (.syn id) := List.count_pos_iff.mpr hmem
    rw [List.count_cons_self] at honce
    omega
  ordered := h.ordered
  whole := h.whole
  last := (List.pairwise_cons.mp h.last).2
  closed s hs hclosed := by
    cases stream with
    | none =>
      by_cases hsyn : frame = .syn id
      · rw [hsyn, Frame.arrive_syn] at hs
        rw [← Option.some.inj hs] at hclosed
        cases hclosed
      · rw [Frame.arrive_none hsyn] at hs
        cases hs
    | some s₀ =>
      obtain ⟨s', hs', -, hremote⟩ := frame.arrive_some id s₀
      rw [hs', Option.some.injEq] at hs
      rw [← hs, hremote, Bool.or_eq_true] at hclosed
      intro later hlater
      rcases hclosed with hclosed | hends
      · exact h.closed s₀ rfl hclosed later (List.mem_cons_of_mem _ hlater)
      · exact (List.pairwise_cons.mp h.last).1 later hlater hends
  unended hwriting := by
    obtain ⟨hframes, hstream⟩ := h.unended hwriting
    refine ⟨fun f hf => hframes f (List.mem_cons_of_mem _ hf), fun s hs => ?_⟩
    cases stream with
    | none =>
      by_cases hsyn : frame = .syn id
      · rw [hsyn, Frame.arrive_syn] at hs
        rw [← Option.some.inj hs]
      · rw [Frame.arrive_none hsyn] at hs
        cases hs
    | some s₀ =>
      obtain ⟨s', hs', -, hremote⟩ := frame.arrive_some id s₀
      rw [hs', Option.some.injEq] at hs
      rw [← hs, hremote, hstream s₀ rfl, hframes frame List.mem_cons_self]
      rfl

/-- The writer may stop writing. -/
theorem weaken {writing' : Bool} (h : Pipe id writing frames stream read written)
    (hwriting : writing' = true → writing = true) : Pipe id writing' frames stream read written :=
  { h with unended := fun hw => h.unended (hwriting hw) }

/-- A frame without bytes for the stream is written behind the others. It may end the stream, or be
another one's. -/
theorem push {frame : Frame} {writing' : Bool} (h : Pipe id writing frames stream read written)
    (hsyn : frame ≠ .syn id) (hbytes : frame.bytesFor id = [])
    (hends : writing' = true → writing = true ∧ frame.ends id = false) :
    Pipe id writing' (frames ++ [frame]) stream read written where
  once := by
    rw [List.count_append, List.count_singleton, if_neg (by simpa using hsyn)]
    exact h.once
  opening hmem := by
    rcases List.mem_append.mp hmem with hmem | hmem
    · exact h.opening hmem
    · exact absurd (List.mem_singleton.mp hmem).symm hsyn
  ordered := h.ordered
  whole s hs := by
    rw [arrived_concat] at hs
    cases hbefore : arrived id frames stream with
    | none =>
      rw [hbefore, Frame.arrive_none hsyn] at hs
      cases hs
    | some s₀ =>
      obtain ⟨s', hs', hbuffer, -⟩ := frame.arrive_some id s₀
      rw [hbefore, hs', Option.some.injEq] at hs
      rw [← hs, hbuffer, hbytes, List.append_nil]
      exact h.whole s₀ hbefore
  last := by
    rw [List.pairwise_append]
    refine ⟨h.last, List.pairwise_singleton _ _, fun f _ later hlater _ => ?_⟩
    rwa [List.mem_singleton.mp hlater]
  closed s hs hclosed later hlater := by
    rcases List.mem_append.mp hlater with hlater | hlater
    · exact h.closed s hs hclosed later hlater
    · rwa [List.mem_singleton.mp hlater]
  unended hwriting := by
    obtain ⟨hbefore, hlast⟩ := hends hwriting
    obtain ⟨hframes, hstream⟩ := h.unended hbefore
    refine ⟨fun f hf => ?_, hstream⟩
    rcases List.mem_append.mp hf with hf | hf
    · exact hframes f hf
    · rwa [List.mem_singleton.mp hf]

/-- The stream is opened. -/
theorem openStream (h : Pipe id true frames none [] []) (hsyn : .syn id ∉ frames) :
    Pipe id true (frames ++ [.syn id]) none [] [] where
  once := by
    rw [List.count_append, List.count_eq_zero_of_not_mem hsyn, List.count_singleton_self]
  opening _ := ⟨rfl, rfl⟩
  ordered := List.prefix_rfl
  whole s hs := by
    rw [arrived_concat, arrived_none hsyn, Frame.arrive_syn] at hs
    rw [← Option.some.inj hs]
    rfl
  last := by
    rw [List.pairwise_append]
    refine ⟨h.last, List.pairwise_singleton _ _, fun f _ later hlater _ => ?_⟩
    rw [List.mem_singleton.mp hlater]
    rfl
  closed := nofun
  unended _ := by
    refine ⟨fun f hf => ?_, nofun⟩
    rcases List.mem_append.mp hf with hf | hf
    · exact (h.unended rfl).1 f hf
    · rw [List.mem_singleton.mp hf]
      rfl

/-- Bytes are written to the stream. -/
theorem write (h : Pipe id true frames stream read written) (bytes : List UInt8) :
    Pipe id true (frames ++ [.data id bytes]) stream read (written ++ bytes) where
  once := by
    rw [List.count_append, List.count_singleton]
    exact h.once
  opening hmem := by
    rcases List.mem_append.mp hmem with hmem | hmem
    · exact h.opening hmem
    · cases List.mem_singleton.mp hmem
  ordered := h.ordered.trans (List.prefix_append _ _)
  whole s hs := by
    rw [arrived_concat] at hs
    cases hbefore : arrived id frames stream with
    | none =>
      rw [hbefore] at hs
      cases hs
    | some s₀ =>
      -- The bytes arrive behind what arrives before them.
      obtain ⟨s', hs', hbuffer, -⟩ := (Frame.data id bytes).arrive_some id s₀
      rw [hbefore, hs', Option.some.injEq] at hs
      have hbytes : (Frame.data id bytes).bytesFor id = bytes := if_pos rfl
      rw [← hs, hbuffer, hbytes, ← List.append_assoc, h.whole s₀ hbefore]
  last := by
    rw [List.pairwise_append]
    refine ⟨h.last, List.pairwise_singleton _ _, fun f hf later _ hends => ?_⟩
    rw [(h.unended rfl).1 f hf] at hends
    cases hends
  closed s hs hclosed := by
    rw [(h.unended rfl).2 s hs] at hclosed
    cases hclosed
  unended _ := by
    obtain ⟨hframes, hstream⟩ := h.unended rfl
    refine ⟨fun f hf => ?_, hstream⟩
    rcases List.mem_append.mp hf with hf | hf
    · exact hframes f hf
    · rw [List.mem_singleton.mp hf]
      rfl

/-- The reader's end changes its stream, without what has not been read yet. -/
theorem modify {s s' : Stream} {read' : List UInt8}
    (h : Pipe id writing frames (some s) read written)
    (hbuffer : read' ++ s'.buffer = read ++ s.buffer) (hclosed : s'.remoteClosed = s.remoteClosed) :
    Pipe id writing frames (some s') read' written where
  once := h.once
  opening hmem := absurd hmem h.notMem_of_some
  ordered := by
    rw [← h.written_eq, ← List.append_assoc, ← hbuffer, List.append_assoc]
    exact List.prefix_append _ _
  whole t ht := by
    obtain ⟨t', ht', hbuffer'⟩ := arrived_some id frames s'
    rw [ht', Option.some.injEq] at ht
    rw [← ht, hbuffer', ← List.append_assoc, hbuffer, List.append_assoc, h.written_eq]
  last := h.last
  closed t ht hremote := by
    rw [← Option.some.inj ht, hclosed] at hremote
    exact h.closed s rfl hremote
  unended hwriting := by
    refine ⟨(h.unended hwriting).1, fun t ht => ?_⟩
    rw [← Option.some.inj ht, hclosed]
    exact (h.unended hwriting).2 s rfl

/-- The reader's end removes its stream. -/
theorem remove (h : Pipe id writing frames stream read written) (hsyn : .syn id ∉ frames) :
    Pipe id writing frames none read written where
  once := h.once
  opening hmem := absurd hmem hsyn
  ordered := h.ordered
  whole s hs := by
    rw [arrived_none hsyn] at hs
    cases hs
  last := h.last
  closed := nofun
  unended hwriting := ⟨(h.unended hwriting).1, nofun⟩

end Pipe

end Mux
