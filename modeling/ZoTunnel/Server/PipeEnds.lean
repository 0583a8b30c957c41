import ZoTunnel.Server.Traffic

/-!
# How a stream's task ends

What the local service has received of a stream when the client's task for it has ended. The task's
pipe comes to its end only when the stream has, and by then all that was written has been received
(`Flow.Finished`). Nothing is written or received any more after that, which every move of the flow
preserves (`FlowMove.finished`). `Accounted` says that a task which has read the marker is running,
has failed, or has finished; `accounted_step` is about every step of the traffic.
-/

namespace ZoTunnel

open Mux Transition

/-- A stream that the client is done with, and to which nothing more is written: the local service
has received all that was. -/
structure Flow.Finished (f : Flow) (id : ℕ) : Prop extends f.Settled id where
  ended : canWrite (f.uses id) = false
  whole : f.received id = f.written id

/-- The task of a stream has failed, goes on behind the marker, or is finished. -/
def Traffic.GoesOn (t : Traffic) (id : ℕ) : Prop :=
  t.failed id = true ∨
    (∃ task, t.tunnel.client.tasks id = some task ∧ task ≠ .marker) ∨ t.flow.Finished id

/-- The task of every stream whose marker has been read has failed, goes on, or is finished. -/
def Traffic.Accounted (t : Traffic) : Prop := ∀ id, t.marked id = true → t.GoesOn id

/-- A stream that is finished stays so. -/
theorem FlowMove.finished {f f' : Flow} (h : FlowMove f f') {id : ℕ} (hid : f.Finished id) :
    f'.Finished id := by
  have hsettled := h.settled hid.toSettled
  obtain ⟨⟨htask, -, huse⟩, hended, hwhole⟩ := hid
  -- What can still be written to is another stream.
  have hopen : ∀ {i : ℕ} {use : StreamUse}, f.uses i = some use → canWrite (some use) = true →
      id ≠ i := by
    rintro i use hi hcan rfl
    rw [hi, hcan] at hended
    cases hended
  cases h with
  | openStream i use hnew =>
    have hne : id ≠ i := fun heq => huse (heq ▸ hnew)
    exact ⟨hsettled, by rw [← hended]; exact congrArg canWrite (Function.update_of_ne hne _ _),
      hwhole⟩
  | writeMarker i hi | writePing i hi =>
    have hne := hopen hi rfl
    exact ⟨hsettled, by rw [← hended]; exact congrArg canWrite (Function.update_of_ne hne _ _),
      hwhole⟩
  | writeHttp i bytes hi =>
    exact ⟨hsettled, hended, hwhole.trans (Function.update_of_ne (hopen hi rfl) _ _).symm⟩
  | endStream frame use =>
    refine ⟨hsettled, ?_, hwhole⟩
    show canWrite (Function.update f.uses frame.stream _ id) = false
    by_cases hi : id = frame.stream
    · rw [hi, Function.update_self]
      cases use.isProxy <;> rfl
    · rw [Function.update_of_ne hi]
      exact hended
  | readProxy i task s byte buffer hi =>
    have hne : id ≠ i := by
      rintro rfl
      rw [htask] at hi
      cases hi
    exact ⟨hsettled, hended, (Function.update_of_ne hne _ _).trans hwhole⟩
  | arrive | readMarker | writePong | drain | ack | endTask | removeStream =>
    exact ⟨hsettled, hended, hwhole⟩

/-- The stream that a step of a task is about. -/
def TaskStep.stream : TaskStep → ℕ
  | .readMarker id | .markerError id | .markerTimeout id | .writePong id | .close id | .ack id
  | .proxyWrite id _ | .proxyRead id | .localEof id | .proxyEnd id | .proxyError id => id

/-- The stream is a proxy request's, or a heartbeat's. -/
def Traffic.IsProxy (t : Traffic) (id : ℕ) : Prop :=
  ∃ use, t.uses id = some use ∧ use.isProxy = true

@[inherit_doc Traffic.IsProxy]
def Traffic.IsHeartbeat (t : Traffic) (id : ℕ) : Prop :=
  ∃ use, t.uses id = some use ∧ use.isProxy = false

/-- The local service has received of the stream what the HTTP layer has written to it, up to what
is still in the buffer of the client's stream and on the way there, and all of it when the client's
pipe comes to the end of the stream. -/
def Traffic.Delivers (t : Traffic) (id : ℕ) : Prop :=
  ∃ s, t.tunnel.client.conn.streams id = some s ∧
    t.received id ++ (s.buffer ++ bytesFor id t.flow.frames) = t.written id ∧
      (s.buffer = [] → s.remoteClosed = true → t.received id = t.written id)

/-- The local service has received what was written of a stream whose marker has been read, unless
it could not be reached or the pipe has failed: while the pipe runs, up to what is on the way, and
when it has ended, everything. -/
def Traffic.Outcome (t : Traffic) (id : ℕ) : Prop :=
  t.failed id = true ∨
    (∃ task, t.tunnel.client.tasks id = some task ∧ task.piping = true ∧ t.Delivers id) ∨
      t.tunnel.client.tasks id = none ∧ t.received id = t.written id

/-- What the invariant says of a proxy request's stream. -/
theorem StreamInv.proxy {t : Traffic} {id : ℕ} (h : StreamInv t.flow id) (hproxy : t.IsProxy id) :
    t.received id <+: t.written id ∧ t.ponged id = false ∧
      (∀ task, t.tunnel.client.tasks id = some task → task ≠ .pong ∧ task ≠ .closing) ∧
      ∀ task, t.tunnel.client.tasks id = some task → task.piping = true → t.Delivers id := by
  obtain ⟨use, huse, hproxy⟩ := hproxy
  obtain ⟨read, sent, hpipe, hsent, htaken⟩ := h.bytes
  have hkind : sent = [] ∧ t.written id = [] ∨ sent = streamTypeProxy :: t.written id := by
    rw [show t.flow.uses id = some use from huse] at hsent
    generalize hwritten : t.flow.written id = written at hsent
    rw [show t.written id = written from hwritten]
    cases hsent with
    | nothing => exact .inl ⟨rfl, rfl⟩
    | proxy => exact .inr rfl
    | heartbeat => cases hproxy
  have hmarker : streamTypeProxy ≠ streamTypeHeartbeat := by decide
  -- Nothing that was read begins with the marker of a heartbeat.
  have hno : ∀ rest, read ≠ streamTypeHeartbeat :: rest := by
    rintro rest rfl
    rcases hkind with ⟨rfl, -⟩ | rfl
    · exact absurd (List.prefix_nil.mp hpipe.ordered) nofun
    · exact hmarker (List.cons_prefix_cons.mp hpipe.ordered).1.symm
  have hfirst : ∀ {marker : UInt8} {rest : List UInt8}, read = marker :: rest →
      sent = marker :: t.written id ∧ rest <+: t.written id := by
    rintro marker rest rfl
    rcases hkind with ⟨rfl, -⟩ | rfl
    · exact absurd (List.prefix_nil.mp hpipe.ordered) nofun
    · obtain ⟨rfl, hrest⟩ := List.cons_prefix_cons.mp hpipe.ordered
      exact ⟨rfl, hrest⟩
  have hread : t.received id <+: t.written id ∧ t.ponged id = false := by
    rcases htaken.cases with ⟨hreceived, hponged, -⟩ | ⟨-, hbeat⟩ | ⟨marker, hmarked, -, hponged⟩
    · refine ⟨?_, hponged⟩
      rw [show t.received id = [] from hreceived]
      exact List.nil_prefix
    · exact absurd hbeat (hno [])
    · exact ⟨(hfirst hmarked).2, hponged⟩
  refine ⟨hread.1, hread.2, fun task htask => ⟨?_, ?_⟩, fun task htask hpiping => ?_⟩
  · rintro rfl
    exact hno [] (htaken.of_answering (.inl htask)).1
  · rintro rfl
    exact hno [] (htaken.of_answering (.inr htask)).1
  · obtain ⟨marker, rfl, -, -⟩ := htaken.of_piping htask hpiping
    obtain ⟨hsame, -⟩ := hfirst rfl
    have hstream : t.flow.streams id ≠ none := h.tasked (by
      show t.tunnel.client.tasks id ≠ none
      rw [htask]
      nofun)
    obtain ⟨s, hs⟩ := Option.ne_none_iff_exists'.mp hstream
    rw [hs, hsame] at hpipe
    refine ⟨s, hs, (List.cons.inj hpipe.written_eq).2, fun hempty hclosed => ?_⟩
    exact (List.cons.inj (hpipe.read_eq_written hempty hclosed)).2

/-- What the invariant says of a heartbeat's stream. -/
theorem StreamInv.heartbeat {t : Traffic} {id : ℕ} (h : StreamInv t.flow id)
    (hbeat : t.IsHeartbeat id) :
    t.received id = [] ∧ ∀ task, t.tunnel.client.tasks id = some task → task.piping = false := by
  obtain ⟨use, huse, hbeat⟩ := hbeat
  obtain ⟨read, sent, hpipe, hsent, htaken⟩ := h.bytes
  -- What was read is nothing, or the marker of the heartbeat.
  have hread : ∀ {marker : UInt8} {rest : List UInt8}, read = marker :: rest →
      marker = streamTypeHeartbeat := by
    rintro marker rest rfl
    have hordered := hpipe.ordered
    rw [show t.flow.uses id = some use from huse] at hsent
    generalize t.flow.written id = written at hsent
    cases hsent with
    | nothing => exact absurd (List.prefix_nil.mp hordered) nofun
    | proxy hproxy => rcases hproxy with rfl | rfl <;> cases hbeat
    | heartbeat => exact (List.cons_prefix_cons.mp hordered).1
  constructor
  · rcases htaken.cases with ⟨hreceived, -, -⟩ | ⟨hreceived, -⟩ | ⟨marker, hmarked, hne, -⟩
    · exact hreceived
    · exact hreceived
    · exact absurd (hread hmarked) hne
  · intro task htask
    by_contra hpiping
    obtain ⟨marker, hmarker, hne, -⟩ := htaken.of_piping htask (Bool.not_eq_false _ ▸ hpiping)
    exact hne (hread hmarker)

/-- What has become of a proxy request's stream whose marker has been read. -/
theorem Traffic.Accounted.outcome {t : Traffic} {id : ℕ} (h : t.Accounted)
    (hinv : StreamInv t.flow id) (hproxy : t.IsProxy id) (hmarked : t.marked id = true) :
    t.Outcome id := by
  obtain ⟨-, -, hanswers, hdelivers⟩ := hinv.proxy hproxy
  rcases h id hmarked with hfailed | ⟨task, htask, hne⟩ | hfinished
  · exact .inl hfailed
  · -- A task that goes on pipes, since it does not answer a heartbeat.
    have hpiping : task.piping = true := by
      cases task with
      | proxying | draining => rfl
      | marker => exact absurd rfl hne
      | pong => exact absurd rfl (hanswers _ htask).1
      | closing => exact absurd rfl (hanswers _ htask).2
    exact .inr (.inl ⟨task, htask, hpiping, hdelivers task htask hpiping⟩)
  · exact .inr (.inr ⟨hfinished.task, hfinished.whole⟩)

end ZoTunnel
